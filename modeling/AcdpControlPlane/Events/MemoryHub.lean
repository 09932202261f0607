import AcdpControlPlane.Common.PubSub
import AcdpControlPlane.Common.Separated
import AcdpControlPlane.Storage.Table
import Mathlib.Data.List.Count

/-!
# The stream hub of a single instance

Live events are streamed to clients that follow a run of their tenant, or everything of their tenant.
`MemoryStreamHubStrategy` keeps one subject for each feed. The subject of a run is held under a key that
joins tenant and run, its followers are counted, and a while after the last one has left a timer completes
and drops it.
-/

namespace AcdpControlPlane

open List Option KeyedTable Function

/-- What a client follows: a run of a tenant, or all that is published globally to a tenant. -/
inductive Feed where
  | run (tenantId runId : String)
  | global (tenantId : String)
deriving DecidableEq, Repr

/-- An operation of a client. Calls of `streamRun` and `streamGlobal`, and subscriptions to what they
return, are told apart by numbers. -/
abbrev ClientOp (Event : Type) := PubSub.Op Feed Event ℕ

/-- The keys of `runSubjects` and of `globalSubjects`. -/
inductive SubjectKey where
  | run (key : String)
  | global (tenantId : String)
deriving DecidableEq, Repr

def runKey (tenantId runId : String) : String := tenantId ++ ":" ++ runId

def Feed.key : Feed → SubjectKey
  | run tenantId runId => .run (runKey tenantId runId)
  | global tenantId => .global tenantId

theorem Feed.eq_of_key_eq {feed feed' : Feed}
    (hf : ∀ tenantId runId, feed = .run tenantId runId → ':' ∉ tenantId.toList)
    (hf' : ∀ tenantId runId, feed' = .run tenantId runId → ':' ∉ tenantId.toList)
    (h : feed.key = feed'.key) : feed = feed' := by
  cases feed with
  | global tenantId =>
    cases feed' with
    | global tenantId' => rw [SubjectKey.global.inj h]
    | run tenantId' runId' => cases h
  | run tenantId runId =>
    cases feed' with
    | global tenantId' => cases h
    | run tenantId' runId' =>
      have hk := congrArg String.toList (SubjectKey.run.inj h)
      simp only [runKey, String.toList_append, append_assoc] at hk
      obtain ⟨ht, hr⟩ :=
        Separated.append_cons_inj (hf _ _ rfl) (hf' _ _ rfl) hk
      rw [String.toList_injective ht, String.toList_injective hr]

structure Source where
  key : SubjectKey
  subject : ℕ
deriving DecidableEq, Repr

structure Subscription where
  id : ℕ
  source : Source
deriving DecidableEq, Repr

/-- The hub, with the observables it has returned and what their subscribers have received. A cleanup timer
is pending or not; subjects are numbered as they are created. -/
structure MemoryHub (Event : Type) where
  subjects : SubjectKey → Option ℕ
  nextSubject : ℕ
  completed : List ℕ
  runSubscriberCounts : String → Option Int
  runCleanupTimers : String → Bool
  observables : ℕ → Option Source
  subscriptions : KeyedTable Subscription.id
  received : ℕ → List Event

namespace MemoryHub

variable {Event : Type}

def initial : MemoryHub Event where
  subjects _ := none
  nextSubject := 0
  completed := []
  runSubscriberCounts _ := none
  runCleanupTimers _ := false
  observables _ := none
  subscriptions := .empty _
  received _ := []

/-- The subject of a key, created if there is none: `getRunSubject` and `getGlobalSubject`. -/
def getSubject (hub : MemoryHub Event) (key : SubjectKey) : MemoryHub Event × ℕ :=
  let subject := (hub.subjects key).getD hub.nextSubject
  ({ hub with
      subjects := Function.update hub.subjects key (some subject)
      nextSubject := if (hub.subjects key).isSome then hub.nextSubject else hub.nextSubject + 1 },
    subject)

/-- `subject.next(event)`. -/
def next (hub : MemoryHub Event) (subject : ℕ) (event : Event) : MemoryHub Event :=
  { hub with
    received := fun id =>
      if (hub.subscriptions.find? id).map (·.source.subject) = some subject then
        hub.received id ++ [event]
      else hub.received id }

/-- `publishToRun` and `publishGlobal`. -/
def publish (hub : MemoryHub Event) (feed : Feed) (event : Event) : MemoryHub Event :=
  let found := hub.getSubject feed.key
  found.1.next found.2 event

/-- A pending cleanup is called off, and the call is counted. -/
def countRun (hub : MemoryHub Event) (key : String) : MemoryHub Event :=
  { hub with
    runSubscriberCounts :=
      Function.update hub.runSubscriberCounts key
        (some ((hub.runSubscriberCounts key).getD 0 + 1))
    runCleanupTimers := Function.update hub.runCleanupTimers key false }

/-- `streamRun` and `streamGlobal`. -/
def stream (hub : MemoryHub Event) (call : ℕ) (feed : Feed) : MemoryHub Event :=
  if hub.observables call = none then
    let found := hub.getSubject feed.key
    let counted :=
      match feed with
      | .run tenantId runId => found.1.countRun (runKey tenantId runId)
      | .global _ => found.1
    { counted with
      observables := Function.update hub.observables call (some ⟨feed.key, found.2⟩) }
  else hub

/-- What happens when a subscription ends. Global feeds are not counted. -/
def teardown (hub : MemoryHub Event) (source : Source) : MemoryHub Event :=
  match source.key with
  | .global _ => hub
  | .run key =>
    let count := (hub.runSubscriberCounts key).getD 1 - 1
    { hub with
      runSubscriberCounts := Function.update hub.runSubscriberCounts key (some count)
      -- `scheduleCleanup` replaces a timer that is pending
      runCleanupTimers :=
        if count ≤ 0 then Function.update hub.runCleanupTimers key true else hub.runCleanupTimers }

/-- `observable.subscribe(subscriber)`. A completed subject completes the subscriber at once. -/
def subscribe (hub : MemoryHub Event) (id call : ℕ) : MemoryHub Event :=
  match hub.subscriptions.find? id, hub.observables call with
  | none, some source =>
    if source.subject ∈ hub.completed then hub.teardown source
    else { hub with subscriptions := hub.subscriptions.insert ⟨id, source⟩ }
  | _, _ => hub

def unsubscribe (hub : MemoryHub Event) (id : ℕ) : MemoryHub Event :=
  match hub.subscriptions.find? id with
  | none => hub
  | some subscription =>
    teardown { hub with subscriptions := hub.subscriptions.filter (·.id ≠ id) } subscription.source

/-- `subject.complete()` ends the subscriptions that the subject has. -/
def complete (hub : MemoryHub Event) (subject : ℕ) : MemoryHub Event :=
  (hub.subscriptions.rows.filter (·.source.subject = subject)).foldl
    (fun hub subscription => hub.teardown subscription.source)
    { hub with
      completed := subject :: hub.completed
      subscriptions := hub.subscriptions.filter (·.source.subject ≠ subject) }

def dropUnused (hub : MemoryHub Event) (key : String) : MemoryHub Event :=
  if (hub.runSubscriberCounts key).getD 0 ≤ 0 then
    match hub.subjects (.run key) with
    | none => hub
    | some subject =>
      let completed := hub.complete subject
      { completed with
        subjects := Function.update completed.subjects (.run key) none
        runSubscriberCounts := Function.update completed.runSubscriberCounts key none }
  else hub

def cleanup (hub : MemoryHub Event) (key : String) : MemoryHub Event :=
  if hub.runCleanupTimers key then
    dropUnused { hub with runCleanupTimers := Function.update hub.runCleanupTimers key false } key
  else hub

end MemoryHub

/-- What happens to the hub of an instance. A timer fires a minute after it was set, that is at any time
while it is pending. -/
inductive MemoryOp (Event : Type) where
  | client (op : ClientOp Event)
  | cleanup (key : String)

namespace MemoryHub

variable {Event : Type}

def client (hub : MemoryHub Event) : ClientOp Event → MemoryHub Event
  | .publish feed event => hub.publish feed event
  | .open call feed => hub.stream call feed
  | .subscribe id call => hub.subscribe id call
  | .unsubscribe id => hub.unsubscribe id

def step (hub : MemoryHub Event) : MemoryOp Event → MemoryHub Event
  | .client op => hub.client op
  | .cleanup key => hub.cleanup key

def run (ops : List (MemoryOp Event)) : MemoryHub Event := ops.foldl step initial

end MemoryHub

def MemoryOp.clients {Event : Type} (ops : List (MemoryOp Event)) : List (ClientOp Event) :=
  ops.filterMap fun
    | .client op => some op
    | .cleanup _ => none

/-- The observables that `streamRun` returns have at most one subscription each. -/
def SubscribedOnce {Event : Type} (ops : List (ClientOp Event)) : Prop :=
  ∀ before id call tenantId runId, before ++ [.subscribe id call] <+: ops →
    (PubSub.run before).subscribed id = none →
      (PubSub.run before).calls call = some (.run tenantId runId) →
        (PubSub.run before).taken call = false

theorem subscribedOnce_of_nodup {Event : Type} {ops : List (ClientOp Event)}
    (h : (ops.filterMap fun | .subscribe _ call => some call | _ => none).Nodup) :
    SubscribedOnce ops := by
  intro before id call tenantId runId hs _ _
  by_contra ht
  obtain ⟨id', hm⟩ := PubSub.mem_subscribe_of_taken (Bool.not_eq_false _ ▸ ht)
  have hn := h.sublist (hs.sublist.filterMap _)
  rw [filterMap_append, nodup_append] at hn
  exact hn.2.2 call (mem_filterMap.mpr ⟨_, hm, rfl⟩) call (by simp) rfl

/-- No tenant of a run has a colon in its name. -/
structure ColonFree {Event : Type} (ops : List (ClientOp Event)) : Prop where
  published : ∀ tenantId runId event, .publish (.run tenantId runId) event ∈ ops →
    ':' ∉ tenantId.toList
  opened : ∀ call tenantId runId, .open call (.run tenantId runId) ∈ ops → ':' ∉ tenantId.toList

theorem separate_of_colonFree {Event : Type} {ops : List (ClientOp Event)} (h : ColonFree ops)
    (id : ℕ) : PubSub.Separate Feed.key ops id := by
  intro before feed event feed' hs hsu hk
  obtain ⟨call, hm⟩ := PubSub.mem_open_of_subscribed hsu
  have hm' : PubSub.Op.open call feed' ∈ ops :=
    hs.subset (mem_append_left _ hm)
  have hp : PubSub.Op.publish feed event ∈ ops :=
    hs.subset (mem_append_right _ (mem_singleton_self _))
  refine Feed.eq_of_key_eq ?_ ?_ hk
  · rintro tenantId runId rfl
    exact h.opened call tenantId runId hm'
  · rintro tenantId runId rfl
    exact h.published tenantId runId event hp

namespace MemoryHub

variable {Event : Type} {hub : MemoryHub Event} {abstract : PubSub.State SubjectKey Event ℕ}
  {key : SubjectKey} {subject : ℕ}

/-! ## The subjects -/

/-- Subjects in the maps are told apart, and are not completed. -/
structure Subjects (hub : MemoryHub Event) : Prop where
  injective : ∀ {key key' subject}, hub.subjects key = some subject →
    hub.subjects key' = some subject → key = key'
  allocated : ∀ {key subject}, hub.subjects key = some subject → subject < hub.nextSubject
  running : ∀ {key subject}, hub.subjects key = some subject → subject ∉ hub.completed
  completed : ∀ subject ∈ hub.completed, subject < hub.nextSubject

@[simp] theorem subjects_getSubject_self (hub : MemoryHub Event) (key : SubjectKey) :
    (hub.getSubject key).1.subjects key = some (hub.getSubject key).2 := by
  simp [getSubject]

theorem subjects_getSubject_of_ne {key' : SubjectKey} (hn : key' ≠ key) :
    (hub.getSubject key).1.subjects key' = hub.subjects key' := by
  simp [getSubject, update_of_ne hn]

theorem subjects_getSubject {key' : SubjectKey} (h : hub.subjects key' = some subject) :
    (hub.getSubject key).1.subjects key' = some subject := by
  by_cases hk : key' = key
  · subst hk
    simp [getSubject, h]
  · rw [subjects_getSubject_of_ne hk, h]

theorem getSubject_new (h : hub.subjects key = none) :
    (hub.getSubject key).2 = hub.nextSubject ∧
      (hub.getSubject key).1.nextSubject = hub.nextSubject + 1 := by
  simp [getSubject, h]

theorem getSubject_old (h : hub.subjects key = some subject) :
    (hub.getSubject key).1 = hub := by
  have hs : update hub.subjects key (some subject) = hub.subjects := by
    rw [← h, update_eq_self]
  simp [getSubject, h, hs]

theorem Subjects.getSubject (h : Subjects hub) (key : SubjectKey) :
    Subjects (hub.getSubject key).1 := by
  cases hk : hub.subjects key with
  | some subject =>
    rw [getSubject_old hk]
    exact h
  | none =>
    obtain ⟨hsu, hn⟩ := getSubject_new hk
    -- an entry is the new one, or an old one with a smaller number
    have hen : ∀ {key' subject}, (hub.getSubject key).1.subjects key' = some subject →
        key' = key ∧ subject = hub.nextSubject ∨ hub.subjects key' = some subject := by
      intro key' subject hf
      by_cases hs : key' = key
      · subst hs
        rw [subjects_getSubject_self, some.injEq, hsu] at hf
        exact Or.inl ⟨rfl, hf.symm⟩
      · rw [subjects_getSubject_of_ne hs] at hf
        exact Or.inr hf
    constructor
    · intro key' key'' subject hf hf'
      rcases hen hf with ⟨rfl, rfl⟩ | ho
      · rcases hen hf' with ⟨rfl, -⟩ | ho'
        · rfl
        · exact absurd (h.allocated ho') (lt_irrefl _)
      · rcases hen hf' with ⟨rfl, rfl⟩ | ho'
        · exact absurd (h.allocated ho) (lt_irrefl _)
        · exact h.injective ho ho'
    · intro key' subject hf
      rw [hn]
      rcases hen hf with ⟨-, rfl⟩ | ho
      · exact Nat.lt_succ_self _
      · exact (h.allocated ho).trans (Nat.lt_succ_self _)
    · intro key' subject hf hm
      rcases hen hf with ⟨-, rfl⟩ | ho
      · exact absurd (h.completed _ hm) (lt_irrefl _)
      · exact h.running ho hm
    · intro subject hm
      rw [hn]
      exact (h.completed subject hm).trans (Nat.lt_succ_self _)

theorem Subjects.drop (h : Subjects hub)
    (hk : hub.subjects key = some subject) (counts : String → Option Int) (timers : String → Bool) :
    Subjects { hub with
      subjects := Function.update hub.subjects key none
      completed := subject :: hub.completed
      runSubscriberCounts := counts
      runCleanupTimers := timers } := by
  have hen : ∀ {key' subject'}, update hub.subjects key none key' = some subject' →
      key' ≠ key ∧ hub.subjects key' = some subject' := by
    intro key' subject' hf
    by_cases hs : key' = key
    · subst hs
      rw [update_self] at hf
      cases hf
    · rw [update_of_ne hs] at hf
      exact ⟨hs, hf⟩
  constructor
  · intro key' key'' subject' hf hf'
    exact h.injective (hen hf).2 (hen hf').2
  · intro key' subject' hf
    exact h.allocated (hen hf).2
  · intro key' subject' hf hm
    obtain ⟨hn, ho⟩ := hen hf
    rcases mem_cons.mp hm with rfl | hm
    · exact hn (h.injective ho hk)
    · exact h.running ho hm
  · intro subject' hm
    rcases mem_cons.mp hm with rfl | hm
    · exact h.allocated hk
    · exact h.completed subject' hm

/-! ## The counts -/

/-- What the calls have opened that still wait for a subscription. -/
def pending (abstract : PubSub.State SubjectKey Event ℕ) (call : ℕ) : Option SubjectKey :=
  if abstract.taken call then none else abstract.calls call

def Counts (counts : String → Option Int) (pending : ℕ → Option SubjectKey)
    (subscriptions : List Subscription) : Prop :=
  ∃ waiting : List ℕ, waiting.Nodup ∧ (∀ call, call ∈ waiting ↔ pending call ≠ none) ∧
    ∀ key, (counts key).getD 0 =
      waiting.countP (fun call => pending call = some (.run key)) +
        subscriptions.countP (fun subscription => subscription.source.key = .run key)

section Counts

variable {counts counts' : String → Option Int} {calls : ℕ → Option SubjectKey}
  {subscriptions : List Subscription} {call : ℕ}

theorem Counts.unused {key : String} (h : Counts counts calls subscriptions)
    (hz : (counts key).getD 0 ≤ 0) :
    (∀ call, calls call ≠ some (.run key)) ∧
      ∀ subscription ∈ subscriptions, subscription.source.key ≠ .run key := by
  obtain ⟨waiting, -, hw, hcn⟩ := h
  have hk := hcn key
  constructor
  · intro call hc
    have hm : call ∈ waiting := (hw call).mpr (by simp [hc])
    have hp : 0 < waiting.countP (fun call => calls call = some (.run key)) :=
      countP_pos_iff.mpr ⟨call, hm, by simpa using hc⟩
    omega
  · intro subscription hm hs
    have hp : 0 < subscriptions.countP (fun sub => sub.source.key = .run key) :=
      countP_pos_iff.mpr ⟨subscription, hm, by simpa using hs⟩
    omega

theorem countP_update {waiting : List ℕ} (hm : call ∉ waiting) (opened : Option SubjectKey)
    (key : SubjectKey) :
    waiting.countP (fun call' => Function.update calls call opened call' = some key) =
      waiting.countP (fun call' => calls call' = some key) := by
  refine countP_congr fun call' hc' => ?_
  have hn : call' ≠ call := fun hs => hm (hs ▸ hc')
  rw [update_of_ne hn]

theorem Counts.open (h : Counts counts calls subscriptions) (hc : calls call = none)
    (opened : SubjectKey) (hct : ∀ key, (counts' key).getD 0 =
      (counts key).getD 0 + if opened = .run key then 1 else 0) :
    Counts counts' (Function.update calls call (some opened)) subscriptions := by
  obtain ⟨waiting, hnd, hw, hcn⟩ := h
  have hn : call ∉ waiting := fun hm => (hw call).mp hm hc
  refine ⟨call :: waiting, nodup_cons.mpr ⟨hn, hnd⟩, fun call' => ?_, fun key => ?_⟩
  · by_cases hs : call' = call
    · subst hs
      simp
    · rw [mem_cons, or_iff_right hs, update_of_ne hs, hw]
  · rw [hct, hcn, countP_cons, countP_update hn, update_self]
    by_cases ho : opened = .run key
    · simp [ho]
      omega
    · simp [ho]

theorem Counts.subscribe (h : Counts counts calls subscriptions) {source : Source}
    (hc : ∀ key, source.key = .run key → calls call = some source.key)
    (hot : calls call ≠ none → calls call = some source.key) (id : ℕ) :
    Counts counts (Function.update calls call none) (subscriptions ++ [⟨id, source⟩]) := by
  obtain ⟨waiting, hn, hw, hcn⟩ := h
  refine ⟨waiting.erase call, hn.erase call, fun call' => ?_, fun key => ?_⟩
  · rw [hn.mem_erase_iff, hw]
    by_cases hs : call' = call
    · subst hs
      simp
    · simp [hs]
  · have hno : call ∉ waiting.erase call := fun hm => (hn.mem_erase_iff.mp hm).1 rfl
    rw [hcn, countP_update hno, countP_append, countP_singleton]
    by_cases hm : call ∈ waiting
    · -- one call less, one subscription more
      have ho := hot ((hw call).mp hm)
      rw [(perm_cons_erase hm).countP_eq, countP_cons, ho]
      by_cases hk : source.key = .run key
      · simp [hk]
        omega
      · simp [hk]
    · have hg : source.key ≠ .run key := by
        intro hk
        exact hm ((hw call).mpr (by simp [hc key hk]))
      simp [hg, erase_of_not_mem hm]

theorem Counts.unsubscribe {table : KeyedTable Subscription.id} {subscription : Subscription}
    (h : Counts counts calls table.rows) (hf : table.find? subscription.id = some subscription)
    (hct : ∀ key, (counts' key).getD 0 =
      (counts key).getD 0 - if subscription.source.key = .run key then 1 else 0) :
    Counts counts' calls (table.filter (·.id ≠ subscription.id)).rows := by
  obtain ⟨waiting, hn, hw, hc⟩ := h
  refine ⟨waiting, hn, hw, fun key => ?_⟩
  have hs := countP_eq_countP_filter_add table.rows
    (fun sub => sub.source.key = .run key) (fun sub => sub.id = subscription.id)
  have ho : table.rows.filter (fun sub => sub.id = subscription.id) = [subscription] := by
    rw [KeyedTable.filter_key_eq, hf]
    rfl
  rw [ho, countP_singleton] at hs
  rw [hct, hc, hs]
  by_cases hk : subscription.source.key = .run key
  · simp [hk, KeyedTable.filter]
    omega
  · simp [hk, KeyedTable.filter]

theorem Counts.drop {key : String} (h : Counts counts calls subscriptions)
    (hz : (counts key).getD 0 ≤ 0) :
    Counts (Function.update counts key none) calls subscriptions := by
  obtain ⟨waiting, hn, hw, hc⟩ := h
  refine ⟨waiting, hn, hw, fun key' => ?_⟩
  by_cases hk : key' = key
  · subst hk
    have ho := hc key'
    simp only [update_self, getD_none]
    omega
  · rw [update_of_ne hk]
    exact hc key'

end Counts

/-! ## The hub and the broadcaster -/

structure Simulates (hub : MemoryHub Event) (abstract : PubSub.State SubjectKey Event ℕ) : Prop where
  observables : ∀ call, abstract.calls call = (hub.observables call).map Source.key
  subscriptions : ∀ id, abstract.subscribed id = (hub.subscriptions.find? id).map (·.source.key)
  received : hub.received = abstract.received
  taken : ∀ call, abstract.taken call = true → hub.observables call ≠ none
  subjects : Subjects hub
  attached : ∀ subscription ∈ hub.subscriptions.rows,
    hub.subjects subscription.source.key = some subscription.source.subject
  waiting : ∀ {call source}, hub.observables call = some source →
    (abstract.taken call = true → ∀ key, source.key ≠ .run key) →
      hub.subjects source.key = some source.subject
  counts : Counts hub.runSubscriberCounts (pending abstract) hub.subscriptions.rows

theorem Simulates.initial : Simulates (initial : MemoryHub Event) .initial where
  observables _ := rfl
  subscriptions _ := rfl
  received := rfl
  taken _ h := nomatch h
  subjects :=
    { injective := fun h => nomatch h
      allocated := fun h => nomatch h
      running := fun h => nomatch h
      completed := fun _ h => nomatch h }
  attached _ h := nomatch h
  waiting h := nomatch h
  counts := ⟨[], nodup_nil, by simp [pending, PubSub.State.initial],
    by simp [MemoryHub.initial, empty]⟩

theorem Simulates.getSubject (h : Simulates hub abstract) (key : SubjectKey) :
    Simulates (hub.getSubject key).1 abstract where
  observables := h.observables
  subscriptions := h.subscriptions
  received := h.received
  taken := h.taken
  subjects := h.subjects.getSubject key
  attached subscription hm := subjects_getSubject (h.attached subscription hm)
  waiting hc hu := subjects_getSubject (h.waiting hc hu)
  counts := h.counts

theorem Simulates.publish (h : Simulates hub abstract) (feed : Feed) (event : Event) :
    Simulates (hub.publish feed event) (PubSub.step abstract (.publish feed.key event)) := by
  have hf := h.getSubject feed.key
  have hsubj := subjects_getSubject_self hub feed.key
  refine ⟨hf.observables, hf.subscriptions, ?_, hf.taken, ?_, hf.attached,
    hf.waiting, hf.counts⟩
  · funext id
    have hi : ((hub.getSubject feed.key).1.subscriptions.find? id).map (·.source.subject) =
        some (hub.getSubject feed.key).2 ↔ abstract.subscribed id = some feed.key := by
      rw [hf.subscriptions]
      cases hid : (hub.getSubject feed.key).1.subscriptions.find? id with
      | none => simp
      | some subscription =>
        have ha := hf.attached subscription (find?_eq_some_iff.mp hid).1
        simp only [map_some, some.injEq]
        constructor
        · intro hs
          rw [hs] at ha
          exact hf.subjects.injective ha hsubj
        · intro hs
          rw [hs, hsubj, some.injEq] at ha
          exact ha.symm
    have hr := congrFun hf.received id
    simp only [MemoryHub.publish, next, PubSub.step]
    by_cases hsu : abstract.subscribed id = some feed.key
    · rw [if_pos hsu, if_pos (hi.mpr hsu), hr]
    · rw [if_neg hsu, if_neg (mt hi.mp hsu), hr]
  · exact ⟨hf.subjects.injective, hf.subjects.allocated, hf.subjects.running,
      hf.subjects.completed⟩

theorem stream_eq {call : ℕ} (hc : hub.observables call = none) (feed : Feed) :
    ∃ counts timers,
      hub.stream call feed =
        { (hub.getSubject feed.key).1 with
          runSubscriberCounts := counts
          runCleanupTimers := timers
          observables :=
            Function.update hub.observables call (some ⟨feed.key, (hub.getSubject feed.key).2⟩) } ∧
        ∀ key, (counts key).getD 0 =
          (hub.runSubscriberCounts key).getD 0 + if feed.key = .run key then 1 else 0 := by
  unfold stream
  rw [if_pos hc]
  cases feed with
  | global tenantId => exact ⟨_, _, rfl, fun key => by simp [Feed.key, getSubject]⟩
  | run tenantId runId =>
    refine ⟨_, _, rfl, fun key => ?_⟩
    by_cases hk : key = runKey tenantId runId
    · subst hk
      simp [Feed.key, getSubject, countRun]
    · simp [Feed.key, getSubject, countRun, update_of_ne hk, Ne.symm hk]

theorem Simulates.stream (h : Simulates hub abstract) (call : ℕ) (feed : Feed) :
    Simulates (hub.stream call feed) (PubSub.step abstract (.open call feed.key)) := by
  have hn : abstract.calls call = none ↔ hub.observables call = none := by
    rw [h.observables, map_eq_none_iff]
  by_cases hc : hub.observables call = none
  · have hf := h.getSubject feed.key
    have ht : abstract.taken call = false := by
      by_contra ht
      exact h.taken call (Bool.not_eq_false _ ▸ ht) hc
    obtain ⟨counts, timers, hst, hct⟩ := stream_eq hc feed
    rw [hst]
    simp only [PubSub.step, if_pos (hn.mpr hc)]
    have hp : pending { abstract with
        calls := update abstract.calls call (some feed.key) } =
          update (pending abstract) call (some feed.key) := by
      funext call'
      by_cases hs : call' = call
      · subst hs
        simp [pending, ht]
      · simp [pending, update_of_ne hs]
    refine ⟨fun call' => ?_, hf.subscriptions, hf.received, fun call' ht' => ?_, ?_,
      hf.attached, fun {call' source} hsr hu => ?_, ?_⟩
    · by_cases hs : call' = call
      · subst hs
        simp
      · simp [update_of_ne hs, h.observables]
    · by_cases hs : call' = call
      · subst hs
        simp
      · simpa [update_of_ne hs] using h.taken call' ht'
    · exact ⟨hf.subjects.injective, hf.subjects.allocated, hf.subjects.running,
        hf.subjects.completed⟩
    · by_cases hs : call' = call
      · subst hs
        simp only [update_self, some.injEq] at hsr
        subst hsr
        exact subjects_getSubject_self hub feed.key
      · simp only [update_of_ne hs] at hsr
        exact hf.waiting hsr hu
    · rw [hp]
      refine h.counts.open ?_ feed.key hct
      rw [pending, ht]
      exact hn.mpr hc
  · have hs : hub.stream call feed = hub := by
      unfold MemoryHub.stream
      rw [if_neg hc]
    simp only [PubSub.step, if_neg (mt hn.mp hc), hs]
    exact h

theorem Simulates.subscribe (h : Simulates hub abstract) (id call : ℕ)
    (hon : abstract.subscribed id = none → ∀ key, abstract.calls call = some (.run key) →
      abstract.taken call = false) :
    Simulates (hub.subscribe id call) (PubSub.step abstract (.subscribe id call)) := by
  simp only [MemoryHub.subscribe, PubSub.step]
  have hi := h.subscriptions id
  have hc := h.observables call
  cases hfn : hub.subscriptions.find? id with
  | some subscription =>
    rw [hi, hfn]
    exact h
  | none =>
    rw [hfn, map_none] at hi
    cases hsr : hub.observables call with
    | none =>
      rw [hi, hc, hsr]
      exact h
    | some source =>
      rw [hsr, map_some] at hc
      have hu : abstract.taken call = true → ∀ key, source.key ≠ .run key := by
        intro ht key hk
        rw [hon hi key (by rw [hc, hk])] at ht
        cases ht
      have hsu := h.waiting hsr hu
      rw [hi, hc]
      dsimp only
      rw [if_neg (h.subjects.running hsu)]
      have hf : (⟨id, source⟩ : Subscription).id ∉ hub.subscriptions.rows.map Subscription.id :=
        find?_eq_none_iff.mp hfn
      have hp : pending { abstract with
          taken := update abstract.taken call true
          subscribed := update abstract.subscribed id (some source.key) } =
            update (pending abstract) call none := by
        funext call'
        by_cases hs : call' = call
        · subst hs
          simp [pending]
        · simp [pending, update_of_ne hs]
      refine ⟨h.observables, fun id' => ?_, h.received, fun call' ht' => ?_,
        ⟨h.subjects.injective, h.subjects.allocated, h.subjects.running, h.subjects.completed⟩,
        fun subscription hm => ?_, fun {call' source'} hsr' hu' => ?_, ?_⟩
      · rw [find?_insert hf]
        by_cases hs : id' = id
        · subst hs
          simp
        · simp [update_of_ne hs, Ne.symm hs, h.subscriptions]
      · by_cases hs : call' = call
        · subst hs
          simp [hsr]
        · exact h.taken call' (by simpa [update_of_ne hs] using ht')
      · rw [rows_insert hf, mem_append, mem_singleton] at hm
        rcases hm with hm | rfl
        · exact h.attached subscription hm
        · exact hsu
      · by_cases hs : call' = call
        · subst hs
          rw [hsr, some.injEq] at hsr'
          exact hsr' ▸ hsu
        · exact h.waiting hsr' (by simpa [update_of_ne hs] using hu')
      · rw [hp, rows_insert hf]
        refine h.counts.subscribe (fun key hk => ?_) (fun ho => ?_) id
        · rw [pending, hon hi key (by rw [hc, hk])]
          exact hc
        · unfold pending at ho ⊢
          split at ho
          · exact absurd rfl ho
          · next ht => rw [if_neg ht, hc]

theorem teardown_eq {source : Source}
    (hct : ∀ key, source.key = .run key → 0 < (hub.runSubscriberCounts key).getD 0) :
    ∃ counts timers,
      hub.teardown source =
        { hub with runSubscriberCounts := counts, runCleanupTimers := timers } ∧
        ∀ key, (counts key).getD 0 =
          (hub.runSubscriberCounts key).getD 0 - if source.key = .run key then 1 else 0 := by
  unfold teardown
  split
  · next tenantId hk => exact ⟨_, _, rfl, fun key => by simp [hk]⟩
  · next key hk =>
    refine ⟨_, _, rfl, fun key' => ?_⟩
    by_cases hs : key' = key
    · subst hs
      cases hc : hub.runSubscriberCounts key' with
      | none =>
        have hp := hct key' hk
        rw [hc] at hp
        cases hp
      | some count => simp [hk]
    · simp [hk, update_of_ne hs, Ne.symm hs]

theorem Simulates.unsubscribe (h : Simulates hub abstract) (id : ℕ) :
    Simulates (hub.unsubscribe id) (PubSub.step abstract (.unsubscribe id)) := by
  simp only [MemoryHub.unsubscribe, PubSub.step]
  cases hf : hub.subscriptions.find? id with
  | none =>
    have hn : abstract.subscribed id = none := by rw [h.subscriptions, hf, map_none]
    rw [← hn, update_eq_self]
    exact h
  | some subscription =>
    obtain ⟨hm, rfl⟩ := find?_eq_some_iff.mp hf
    have hc : ∀ key, subscription.source.key = .run key →
        0 < (hub.runSubscriberCounts key).getD 0 := by
      intro key hk
      by_contra hz
      exact (h.counts.unused (Int.not_lt.mp hz)).2 subscription hm hk
    obtain ⟨counts, timers, ht, hct⟩ :=
      @teardown_eq Event { hub with subscriptions := hub.subscriptions.filter (·.id ≠ subscription.id) }
        subscription.source hc
    dsimp only
    rw [ht]
    refine ⟨h.observables, fun id' => ?_, h.received, h.taken,
      ⟨h.subjects.injective, h.subjects.allocated, h.subjects.running, h.subjects.completed⟩,
      fun subscription' hm' => ?_, h.waiting, h.counts.unsubscribe hf hct⟩
    · rw [KeyedTable.find?_filter]
      by_cases hs : id' = subscription.id
      · subst hs
        simp [hf, filter_some]
      · simp only [update_of_ne hs, h.subscriptions]
        cases ho : hub.subscriptions.find? id' with
        | none => rfl
        | some subscription' =>
          have hi := (find?_eq_some_iff.mp ho).2
          simp [filter_some, hi, hs]
    · exact h.attached subscription' (KeyedTable.mem_filter.mp hm').1

theorem complete_eq
    (hn : ∀ subscription ∈ hub.subscriptions.rows, subscription.source.subject ≠ subject) :
    hub.complete subject = { hub with completed := subject :: hub.completed } := by
  have hen : hub.subscriptions.rows.filter (·.source.subject = subject) = [] := by
    rw [filter_eq_nil_iff]
    intro subscription hm
    simpa using hn subscription hm
  have hk : hub.subscriptions.filter (·.source.subject ≠ subject) = hub.subscriptions := by
    apply KeyedTable.ext
    refine filter_eq_self.mpr fun subscription hm => ?_
    simpa using hn subscription hm
  rw [complete, hen, hk, foldl_nil]

theorem Simulates.timers (h : Simulates hub abstract) (timers : String → Bool) :
    Simulates { hub with runCleanupTimers := timers } abstract :=
  ⟨h.observables, h.subscriptions, h.received, h.taken,
    ⟨h.subjects.injective, h.subjects.allocated, h.subjects.running, h.subjects.completed⟩,
    h.attached, h.waiting, h.counts⟩

theorem Simulates.complete_eq (h : Simulates hub abstract) {key : String}
    (hz : (hub.runSubscriberCounts key).getD 0 ≤ 0) (hsu : hub.subjects (.run key) = some subject) :
    hub.complete subject = { hub with completed := subject :: hub.completed } := by
  refine MemoryHub.complete_eq fun subscription hm hs => ?_
  have ha := h.attached subscription hm
  rw [hs] at ha
  exact (h.counts.unused hz).2 subscription hm (h.subjects.injective ha hsu)

theorem Simulates.dropUnused (h : Simulates hub abstract) (key : String) :
    Simulates (hub.dropUnused key) abstract := by
  unfold MemoryHub.dropUnused
  split
  · next hz =>
    obtain ⟨hc, hsu⟩ := h.counts.unused hz
    split
    · exact h
    · next subject hs =>
      rw [h.complete_eq hz hs]
      refine ⟨h.observables, h.subscriptions, h.received, h.taken, h.subjects.drop hs _ _,
        fun subscription hm => ?_, fun {call source} hsr hu => ?_, h.counts.drop hz⟩
      · dsimp only
        rw [update_of_ne (hsu subscription hm)]
        exact h.attached subscription hm
      · -- the key of an observable that still waits has a count
        have hn : source.key ≠ .run key := by
          intro hk
          by_cases ht : abstract.taken call = true
          · exact hu ht key hk
          · refine hc call ?_
            rw [pending, if_neg ht, h.observables, hsr, map_some, hk]
        dsimp only
        rw [update_of_ne hn]
        exact h.waiting hsr hu
  · exact h

theorem Simulates.cleanup (h : Simulates hub abstract) (key : String) :
    Simulates (hub.cleanup key) abstract := by
  unfold MemoryHub.cleanup
  split
  · exact (h.timers _).dropUnused key
  · exact h

theorem Simulates.client (h : Simulates hub abstract) (op : ClientOp Event)
    (ho : ∀ id call, op = .subscribe id call → abstract.subscribed id = none →
      ∀ key, abstract.calls call = some (.run key) → abstract.taken call = false) :
    Simulates (hub.client op) (PubSub.step abstract (op.rename Feed.key)) := by
  cases op with
  | publish feed event => exact h.publish feed event
  | «open» call feed => exact h.stream call feed
  | subscribe id call => exact h.subscribe id call (ho id call rfl)
  | unsubscribe id => exact h.unsubscribe id

theorem run_snoc (ops : List (MemoryOp Event)) (op : MemoryOp Event) :
    run (ops ++ [op]) = (run ops).step op := by
  simp [run]

theorem taken_of_subscribedOnce {ops : List (ClientOp Event)} {id call : ℕ}
    (ho : SubscribedOnce (ops ++ [.subscribe id call]))
    (hi : (PubSub.run (ops.map (PubSub.Op.rename Feed.key))).subscribed id = none) (key : String)
    (hc : (PubSub.run (ops.map (PubSub.Op.rename Feed.key))).calls call = some (.run key)) :
    (PubSub.run (ops.map (PubSub.Op.rename Feed.key))).taken call = false := by
  have hr := PubSub.renamed_run Feed.key ops
  rw [hr.subscribed, map_eq_none_iff] at hi
  rw [hr.calls, map_eq_some_iff] at hc
  obtain ⟨feed, hf, hk⟩ := hc
  rw [hr.taken]
  cases feed with
  | global tenantId => cases hk
  | run tenantId runId => exact ho ops id call tenantId runId (prefix_refl _) hi hf

theorem simulates_run {ops : List (MemoryOp Event)} (ho : SubscribedOnce (MemoryOp.clients ops)) :
    Simulates (run ops) (PubSub.run ((MemoryOp.clients ops).map (PubSub.Op.rename Feed.key))) := by
  induction ops using reverseRecOn with
  | nil => exact Simulates.initial
  | append_singleton ops op ih =>
    rw [run_snoc]
    cases op with
    | cleanup key =>
      have hc : MemoryOp.clients (ops ++ [.cleanup key]) = MemoryOp.clients ops := by
        simp [MemoryOp.clients]
      rw [hc] at ho ⊢
      exact (ih ho).cleanup key
    | client op =>
      have hc : MemoryOp.clients (ops ++ [.client op]) = MemoryOp.clients ops ++ [op] := by
        simp [MemoryOp.clients]
      rw [hc] at ho ⊢
      rw [map_append, map_singleton, PubSub.run_snoc]
      have hb : SubscribedOnce (MemoryOp.clients ops) := by
        intro before id call tenantId runId hs
        exact ho before id call tenantId runId (hs.trans (prefix_append _ _))
      refine (ih hb).client op fun id call hop => ?_
      subst hop
      exact taken_of_subscribedOnce ho

theorem received_run {ops : List (MemoryOp Event)} (ho : SubscribedOnce (MemoryOp.clients ops)) :
    (run ops).received =
      (PubSub.run ((MemoryOp.clients ops).map (PubSub.Op.rename Feed.key))).received :=
  (simulates_run ho).received

/-- A subscriber then receives what is published to its feed. -/
theorem received_of_colonFree {ops : List (MemoryOp Event)}
    (ho : SubscribedOnce (MemoryOp.clients ops)) (h : ColonFree (MemoryOp.clients ops)) (id : ℕ) :
    (run ops).received id = (PubSub.run (MemoryOp.clients ops)).received id := by
  rw [received_run ho]
  exact PubSub.received_rename_iff.mpr (separate_of_colonFree h id)

theorem received_one_run : (run [.client (.open 0 (.run "t" "r")), .client (.subscribe 0 0),
    .client (.publish (.run "t" "r") 7)]).received 0 = [7] :=
  received_of_colonFree (subscribedOnce_of_nodup (by decide))
    ⟨by simp +contextual [MemoryOp.clients], by simp +contextual [MemoryOp.clients]⟩ 0

end MemoryHub

end AcdpControlPlane
