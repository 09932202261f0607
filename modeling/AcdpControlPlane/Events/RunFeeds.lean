import AcdpControlPlane.Events.MemoryHub

/-!
# How long the subject of a run is kept

`MemoryStreamHubStrategy` sets a timer of a minute when the last follower of a run leaves, and the timer drops
the subject. So a run that was followed is kept while it has a follower, and for a minute more. But a subject
is also made by `publishToRun`, which neither counts anybody nor sets a timer: a run that is published and
never followed is kept for good.
-/

namespace AcdpControlPlane

open Function

def CLEANUP_MS : Int := 60000

inductive FeedOp (Event : Type) where
  | publish (feed : Feed) (event : Event)
  | follow (feed : Feed)
  | unsubscribe (id : ℕ)
  | cleanup (key : String)

structure TimedHub (Event : Type) where
  hub : MemoryHub Event
  next : ℕ
  left : List (String × Int)
  clock : Int

namespace TimedHub

variable {Event : Type}

def initial (clock : Int) : TimedHub Event := ⟨.initial, 0, [], clock⟩

def leave (s : TimedHub Event) (id : ℕ) : List (String × Int) :=
  match (s.hub.subscriptions.find? id).map (·.source.key) with
  | some (SubjectKey.run key) => (key, s.clock) :: s.left.filter (·.1 ≠ key)
  | _ => s.left

def apply (s : TimedHub Event) : FeedOp Event → TimedHub Event
  | .publish feed event => { s with hub := s.hub.publish feed event }
  | .follow feed => { s with hub := (s.hub.stream s.next feed).subscribe s.next s.next, next := s.next + 1 }
  | .unsubscribe id => { s with hub := s.hub.unsubscribe id, left := s.leave id }
  | .cleanup key => { s with hub := s.hub.cleanup key }

/-- The clock does not go back, and does not pass a timer that is pending. -/
def OnTime (s : TimedHub Event) (now : Int) : Prop :=
  s.clock ≤ now ∧ ∀ e ∈ s.left, s.hub.runCleanupTimers e.1 = true → now ≤ e.2 + CLEANUP_MS

instance (s : TimedHub Event) (now : Int) : Decidable (s.OnTime now) :=
  inferInstanceAs (Decidable (_ ∧ _))

def step (s : TimedHub Event) (op : FeedOp Event × Int) : TimedHub Event :=
  if s.OnTime op.2 then apply { s with clock := op.2 } op.1 else s

def run (clock : Int) (ops : List (FeedOp Event × Int)) : TimedHub Event :=
  ops.foldl step (initial clock)

def Left (s : TimedHub Event) (key : String) : Prop :=
  ∃ e ∈ s.left, e.1 = key ∧ s.clock ≤ e.2 + CLEANUP_MS

end TimedHub

namespace MemoryHub

variable {Event : Type} {hub : MemoryHub Event} {abstract : PubSub.State SubjectKey Event ℕ} {key : String}
  {recent : Prop}

def Followed (hub : MemoryHub Event) (key : String) : Prop :=
  ∃ subscription ∈ hub.subscriptions.rows, subscription.source.key = .run key

/-- A run that was followed is followed now, or its timer is pending, and that was set of late. -/
structure Watched (recent : Prop) (hub : MemoryHub Event) (key : String) : Prop where
  held : hub.runSubscriberCounts key ≠ none → hub.subjects (.run key) ≠ none
  watched : hub.runSubscriberCounts key = none ∨ hub.Followed key ∨ hub.runCleanupTimers key = true
  timer : hub.runCleanupTimers key = true → recent

theorem Counts.followed {counts : String → Option Int} {calls : ℕ → Option SubjectKey}
    {subscriptions : List Subscription} (h : Counts counts calls subscriptions)
    (hn : ∀ call, calls call = none) (hp : 0 < (counts key).getD 0) :
    ∃ subscription ∈ subscriptions, subscription.source.key = .run key := by
  obtain ⟨waiting, -, hw, hc⟩ := h
  have hni : waiting = [] := List.eq_nil_iff_forall_not_mem.mpr fun call hm =>
    (hw call).mp hm (hn call)
  rw [hc key, hni] at hp
  simpa using hp

theorem Watched.of_same {hub' : MemoryHub Event} (h : Watched recent hub key)
    (hc : hub'.runSubscriberCounts key = hub.runSubscriberCounts key)
    (ht : hub'.runCleanupTimers key = hub.runCleanupTimers key)
    (hs : hub.subjects (.run key) ≠ none → hub'.subjects (.run key) ≠ none)
    (hsu : ∀ subscription ∈ hub.subscriptions.rows, subscription.source.key = .run key →
      subscription ∈ hub'.subscriptions.rows) : Watched recent hub' key := by
  refine ⟨fun h' => hs (h.held (hc ▸ h')), ?_, fun h' => h.timer (ht ▸ h')⟩
  rw [hc, ht]
  refine h.watched.imp_right (Or.imp_left ?_)
  rintro ⟨subscription, hm, hk⟩
  exact ⟨subscription, hsu _ hm hk, hk⟩

theorem subjects_getSubject_ne_none {key key' : SubjectKey} (h : hub.subjects key' ≠ none) :
    (hub.getSubject key).1.subjects key' ≠ none := by
  obtain ⟨subject, hs⟩ := Option.ne_none_iff_exists'.mp h
  rw [subjects_getSubject hs]
  exact Option.some_ne_none _

theorem Watched.publish (h : Watched recent hub key) (feed : Feed) (event : Event) :
    Watched recent (hub.publish feed event) key :=
  h.of_same rfl rfl subjects_getSubject_ne_none fun _ hm _ => hm

theorem follow_eq (h : Simulates hub abstract) {n : ℕ} (ho : hub.observables n = none)
    (hf : hub.subscriptions.find? n = none) (feed : Feed) :
    (hub.stream n feed).subscribe n n = { hub.stream n feed with
      subscriptions := hub.subscriptions.insert ⟨n, feed.key, (hub.getSubject feed.key).2⟩ } := by
  obtain ⟨counts, timers, hs, -⟩ := stream_eq ho feed
  have hr := (h.getSubject feed.key).subjects.running (subjects_getSubject_self hub feed.key)
  rw [hs, MemoryHub.subscribe]
  simp only [update_self]
  rw [show (hub.getSubject feed.key).1.subscriptions = hub.subscriptions from rfl, hf]
  dsimp only
  rw [if_neg hr]

theorem Watched.follow (h : Watched recent hub key) (hs : Simulates hub abstract) {n : ℕ}
    (ho : hub.observables n = none) (hf : hub.subscriptions.find? n = none) (feed : Feed) :
    Watched recent ((hub.stream n feed).subscribe n n) key := by
  rw [follow_eq hs ho hf]
  unfold MemoryHub.stream
  rw [if_pos ho]
  cases feed with
  | global tenantId =>
    refine h.of_same rfl rfl (fun hh => ?_) fun _ hm _ => KeyedTable.mem_insert_of_mem hm
    exact @subjects_getSubject_ne_none _ hub (Feed.global tenantId).key _ hh
  | run tenantId runId =>
    by_cases hk : key = runKey tenantId runId
    · subst hk
      refine ⟨fun _ => (subjects_getSubject_self hub _).trans_ne (Option.some_ne_none _),
        .inr (.inl ⟨⟨n, _, _⟩, KeyedTable.mem_insert.mpr (.inr ⟨?_, rfl⟩), rfl⟩), fun ht => ?_⟩
      · exact KeyedTable.find?_eq_none_iff.mp hf
      · exact nomatch (update_self ..).symm.trans ht
    · exact h.of_same (update_of_ne hk ..) (update_of_ne hk ..)
        (@subjects_getSubject_ne_none _ hub _ _) fun _ hm _ => KeyedTable.mem_insert_of_mem hm

theorem Watched.unsubscribe (h : Watched recent hub key) (hs : Simulates hub abstract)
    (hp : ∀ call, pending abstract call = none) {id : ℕ}
    (hl : (hub.subscriptions.find? id).map (·.source.key) = some (.run key) → recent) :
    Watched recent (hub.unsubscribe id) key := by
  have hc := (hs.unsubscribe id).counts
  unfold MemoryHub.unsubscribe at hc ⊢
  split
  · exact h
  · next subscription hf =>
    simp only [hf] at hc
    simp only [hf, Option.map_some, Option.some.injEq] at hl
    obtain ⟨hm, rfl⟩ := KeyedTable.find?_eq_some_iff.mp hf
    have ha := hs.attached subscription hm
    by_cases hk : subscription.source.key = .run key
    · rw [hk] at ha
      simp only [teardown, hk] at hc ⊢
      refine ⟨fun _ => ha.trans_ne (Option.some_ne_none _), .inr ?_, fun _ => hl hk⟩
      by_cases hz : (hub.runSubscriberCounts key).getD 1 - 1 ≤ 0
      · right
        simp [hz]
      · exact .inl (hc.followed hp (by simpa using hz))
    · have hke : ∀ sub ∈ hub.subscriptions.rows, sub.source.key = .run key →
          sub ∈ (hub.subscriptions.filter (·.id ≠ subscription.id)).rows := by
        intro sub hsu hsk
        refine KeyedTable.mem_filter.mpr ⟨hsu, decide_eq_true fun hi => hk ?_⟩
        rw [← hsk, hub.subscriptions.eq_of_key_eq hm hsu hi.symm]
      unfold teardown
      split
      · exact h.of_same rfl rfl id hke
      · next key' hk' =>
        have hn : key ≠ key' := fun hsa => hk (hsa ▸ hk')
        refine h.of_same (update_of_ne hn ..) ?_ id hke
        dsimp only
        split
        · exact update_of_ne hn ..
        · rfl

theorem Watched.cleanup (h : Watched recent hub key) (hs : Simulates hub abstract)
    (hp : ∀ call, pending abstract call = none) (key' : String) : Watched recent (hub.cleanup key') key := by
  unfold MemoryHub.cleanup
  split
  case isFalse => exact h
  case isTrue hd =>
  unfold MemoryHub.dropUnused
  split
  · next hz =>
    split
    · next hn =>
      by_cases hk : key = key'
      · subst hk
        exact ⟨h.held, .inl (by_contra fun hc => h.held hc hn), fun _ => h.timer hd⟩
      · exact h.of_same rfl (update_of_ne hk ..) id fun _ hm _ => hm
    · next subject hsu =>
      rw [(hs.timers _).complete_eq hz hsu]
      by_cases hk : key = key'
      · subst hk
        exact ⟨fun hc => (hc (update_self ..)).elim, .inl (update_self ..),
          fun _ => h.timer hd⟩
      · refine h.of_same (update_of_ne hk ..) (update_of_ne hk ..) (fun hh => ?_)
          fun _ hm _ => hm
        exact (update_of_ne (fun hsa => hk (SubjectKey.run.inj hsa)) ..).trans_ne hh
  · next hpo =>
    by_cases hk : key = key'
    · subst hk
      exact ⟨h.held, .inr (.inl (hs.counts.followed hp (Int.not_le.mp hpo))), fun _ => h.timer hd⟩
    · exact h.of_same rfl (update_of_ne hk ..) id fun _ hm _ => hm

end MemoryHub

namespace TimedHub

variable {Event : Type} {s : TimedHub Event}

open MemoryHub

structure Kept (s : TimedHub Event) : Prop where
  simulates : ∃ abstract, Simulates s.hub abstract ∧ (∀ call, pending abstract call = none) ∧
    ∀ n, s.next ≤ n → abstract.calls n = none ∧ abstract.subscribed n = none
  watched : ∀ key, Watched (s.Left key) s.hub key

theorem Kept.tick (h : Kept s) {now : Int} (hn : s.OnTime now) : Kept { s with clock := now } := by
  refine ⟨h.simulates, fun key => ⟨(h.watched key).held, (h.watched key).watched, fun ht => ?_⟩⟩
  obtain ⟨e, he, rfl, -⟩ := (h.watched key).timer ht
  exact ⟨e, he, rfl, hn.2 e he ht⟩

theorem Left.leave {key : String} (id : ℕ) (h : s.Left key ∨
      (s.hub.subscriptions.find? id).map (·.source.key) = some (.run key)) :
    (s.apply (.unsubscribe id)).Left key := by
  unfold Left apply TimedHub.leave
  dsimp only
  split
  · next key' hf =>
    by_cases hk : key' = key
    · exact ⟨_, List.mem_cons_self .., hk, by unfold CLEANUP_MS; omega⟩
    · rcases h with ⟨e, he, rfl, hl⟩ | hs
      · exact ⟨e, List.mem_cons_of_mem _ (by simp [he, Ne.symm hk]), rfl, hl⟩
      · rw [hf] at hs
        exact (hk (SubjectKey.run.inj (Option.some.inj hs))).elim
  · next ho => exact h.resolve_right (ho key)

theorem Kept.apply (h : Kept s) (op : FeedOp Event) : Kept (s.apply op) := by
  obtain ⟨abstract, hs, hp, hf⟩ := h.simulates
  cases op with
  | publish feed event =>
    exact ⟨⟨_, hs.publish feed event, hp, hf⟩, fun key => (h.watched key).publish feed event⟩
  | follow feed =>
    obtain ⟨hc, hi⟩ := hf s.next le_rfl
    have ho : s.hub.observables s.next = none := Option.map_eq_none_iff.mp (hs.observables _ ▸ hc)
    have hfn : s.hub.subscriptions.find? s.next = none :=
      Option.map_eq_none_iff.mp (hs.subscriptions _ ▸ hi)
    have ht : abstract.taken s.next = false :=
      Bool.eq_false_iff.mpr fun ht => hs.taken _ ht ho
    refine ⟨⟨_, (hs.stream s.next feed).subscribe s.next s.next fun _ _ _ => ?_, fun call => ?_, fun n hn => ?_⟩,
      fun key => (h.watched key).follow hs ho hfn feed⟩
    · simp [PubSub.step, hc, ht]
    · have hca := hp call
      simp only [PubSub.step, hc, hi, if_true, update_self, pending] at hca ⊢
      by_cases hsa : call = s.next
      · simp [hsa]
      · simpa [update_of_ne hsa] using hca
    · have hne : n ≠ s.next := Nat.ne_of_gt hn
      simp only [PubSub.step, hc, hi, if_true, update_self]
      simp only [update_of_ne hne]
      exact hf n (Nat.le_of_lt hn)
  | unsubscribe id =>
    refine ⟨⟨_, hs.unsubscribe id, hp, fun n hn => ⟨(hf n hn).1, ?_⟩⟩, fun key => ?_⟩
    · simp only [PubSub.step, update_apply]
      split
      · rfl
      · exact (hf n hn).2
    · have hk := h.watched key
      have hl := Watched.mk hk.held hk.watched fun hti => Left.leave id (.inl (hk.timer hti))
      exact hl.unsubscribe hs hp fun hfn => .leave id (.inr hfn)
  | cleanup key =>
    exact ⟨⟨_, hs.cleanup key, hp, hf⟩, fun key' => (h.watched key').cleanup hs hp key⟩

theorem Kept.run (clock : Int) (ops : List (FeedOp Event × Int)) : Kept (run clock ops) := by
  refine List.foldlRecOn ops step ⟨⟨_, .initial, fun _ => rfl, fun _ _ => ⟨rfl, rfl⟩⟩, fun key => ?_⟩
    fun s h op _ => ?_
  · exact ⟨fun hc => (hc rfl).elim, .inl rfl, nofun⟩
  · unfold step
    split
    · next hn => exact (h.tick hn).apply op.1
    · exact h

/-- **A subject of a run** that is held and was followed has a follower, or had one in the last minute. What
has no count was published, and nobody has followed it since. -/
theorem run_subject_recent (clock : Int) (ops : List (FeedOp Event × Int)) (key : String) :
    let s := run clock ops
    s.hub.subjects (.run key) = none ∨ s.hub.runSubscriberCounts key = none ∨
      s.hub.Followed key ∨ s.Left key := by
  have h := (Kept.run clock ops).watched key
  exact .inr (h.watched.imp_right (Or.imp_right h.timer))

/-- A run that is published and never followed is kept. -/
theorem unfollowed_run_kept :
    let s : TimedHub Unit := run 0 [(.publish (.run "acme" "r1") (), 0), (.publish (.global "acme") (), 100000)]
    s.clock = 100000 ∧ s.hub.subjects (.run "acme:r1") = some 0 ∧ ¬ s.hub.Followed "acme:r1" ∧
      ¬ s.Left "acme:r1" := by
  refine ⟨rfl, by decide, ?_, ?_⟩
  · rintro ⟨_, hm, -⟩
    cases hm
  · rintro ⟨_, hm, -⟩
    cases hm

end TimedHub

end AcdpControlPlane
