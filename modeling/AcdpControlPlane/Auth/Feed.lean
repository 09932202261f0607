import AcdpControlPlane.Auth.Revocations
import AcdpControlPlane.Common.Paging
import AcdpControlPlane.Common.Trace

/-!
# The revocation feed

An issuer hands out its revocations in pages (`listSince` of
`src/auth/in-memory-revocation.repository.ts`, `src/auth/revocation-feed.controller.ts`), and a consumer
polls them into its own store (`src/auth/revocation-poller.service.ts`). The cursor of the consumer is a
time in milliseconds: what was revoked up to it is taken to be applied, and is not asked for again.
-/

namespace AcdpControlPlane

open List

/-! ## The issuer -/

/-- The order of `localeCompare`. -/
structure LocaleOrder where
  le : String → String → Bool
  trans : ∀ a b c, le a b = true → le b c = true → le a c = true
  total : ∀ a b, (le a b || le b a) = true

structure FeedEntry (K : Type) where
  jti : String
  sub : String
  iss : String
  exp : K
  revokedAtMs : Int

structure FeedResponse (K : Type) where
  entries : List (FeedEntry K)
  nextCursor : Option Int

def revokedAtMs {K : Type} (record : RevocationRecord K) : Int := record.revokedAt.getD 0

def listedBefore {K : Type} (locale : LocaleOrder) (a b : RevocationRecord K) : Bool :=
  if revokedAtMs a ≠ revokedAtMs b then revokedAtMs a < revokedAtMs b else locale.le a.jti b.jti

/-- The clamped page size, `Math.max(1, Math.min(limit | 0, 500))`. -/
def pageCap (limit : Int) : ℕ := (max 1 (min (BitVec.ofInt 32 limit).toInt 500)).toNat

def listed {K : Type} (locale : LocaleOrder) (rows : List (RevocationRecord K)) :
    List (RevocationRecord K) :=
  rows.mergeSort (listedBefore locale)

/-- A page of the records after a time. A page is extended to the end of its last millisecond. -/
def listSince {K : Type} (locale : LocaleOrder) (limit : Int)
    (table : RevocationTable K .memory) (sinceMs : Int) : List (RevocationRecord K) × Option Int :=
  let sorted := listed locale (table.rows.filter (sinceMs < revokedAtMs ·))
  (Paging.page revokedAtMs (pageCap limit) sorted,
    Paging.nextCursor revokedAtMs (pageCap limit) sorted)

def feedEntry {K : Type} (record : RevocationRecord K) : FeedEntry K :=
  ⟨record.jti, record.sub, record.iss, record.exp, revokedAtMs record⟩

def feed {K : Type} (locale : LocaleOrder) (limit : Int) (table : RevocationTable K .memory)
    (since : Int) : FeedResponse K :=
  let (entries, nextCursor) := listSince locale limit table since
  ⟨entries.map feedEntry, nextCursor⟩

theorem pairwise_listed {K : Type} (locale : LocaleOrder) (rows : List (RevocationRecord K)) :
    (listed locale rows).Pairwise fun a b => revokedAtMs a ≤ revokedAtMs b :=
  Paging.pairwise_mergeSort_byKeyThen (fun a b => locale.le a.jti b.jti)
    (fun _ _ _ => locale.trans _ _ _) (fun _ _ => locale.total _ _) rows

theorem listed_perm {K : Type} (locale : LocaleOrder) (rows : List (RevocationRecord K)) :
    (listed locale rows).Perm rows := mergeSort_perm _ _

/-! ## The consumer -/

/-- What the poller reads from a response: entries without a token id are skipped. -/
def normalizeFeedResponse {K : Type} (response : FeedResponse K) : FeedResponse K :=
  { response with entries := response.entries.filter (·.jti ≠ "") }

def FEED_PAGE_LIMIT : Int := 200

section Definitions

variable {K : Type} [Field K] [LinearOrder K] [FloorRing K]

def importedRecord (issuer : String) (e : FeedEntry K) : RevocationRecord K where
  jti := e.jti
  sub := e.sub
  iss := if e.iss ≠ "" then e.iss else issuer
  exp := e.exp
  revokedBy := "cross-issuer-poll:" ++ issuer
  reason := .unspecified
  revokedAt := none

/-- An entry that is never applied: of another issuer, or with a malformed expiry. -/
def isDeadLetter (issuer : String) (e : FeedEntry K) : Bool :=
  (e.iss ≠ "" ∧ e.iss ≠ issuer) ∨ e.exp ≤ 0

/-- Apply an entry: whether it did not fail, what was recorded, and the store. -/
def applyEntry {persistence : Persistence} (issuer : String) (e : FeedEntry K) (now : K)
    (fault : Fault) (table : RevocationTable K persistence) :
    Bool × Option (RevocationRecord K) × RevocationTable K persistence :=
  if isDeadLetter issuer e then (true, none, table)
  else
    let record := importedRecord issuer e
    match fault, revoke record now table with
    | .none, (.ok _, table') => (true, some record, table')
    | .none, (.error _, table') => (false, none, table')
    | .unacknowledged, (_, table') => (false, none, table')
    | .lost, _ => (false, none, table)

/-- A poll: the cursor it started from, and what is left of its page. -/
inductive Poll (K : Type) where
  | requested (since : Int)
  | applying (remaining : List (FeedEntry K)) (allSucceeded : Bool) (nextCursor : Option Int)

/-- The issuer with its clock, and the consumer. Two fields are kept for the statement only: what the
issuer held when it was last polled, and the records whose `revoke` returned. -/
structure FeedState (K : Type) (persistence : Persistence) where
  issuer : RevocationTable K .memory
  clock : K
  lastPolled : List (RevocationRecord K)
  consumer : RevocationTable K persistence
  applied : List (RevocationRecord K)
  cursor : Int
  persisted : Option Int
  persisting : List Int
  polls : List (Poll K)

def FeedState.initial (persistence : Persistence) (clock : K) : FeedState K persistence :=
  ⟨.empty _, clock, [], .empty _, [], 0, none, [], []⟩

inductive FeedEvent (K : Type) where
  | revoke (record : RevocationRecord K) (now : K)
  | evictExpired (now : K)
  | isRevoked (iss jti : String) (now : K)
  | startPoll
  | answer
  | transportFailure
  | applyEntry (now : K) (fault : Fault)
  | finishPoll
  | persistCursor (fault : Fault)
  | restart (fault : Fault)

inductive FeedStep {persistence : Persistence} (locale : LocaleOrder) (issuer : String) :
    FeedEvent K → FeedState K persistence → FeedState K persistence → Prop where
  | revoke {s : FeedState K persistence} (record : RevocationRecord K) (now : K)
      (stamp : record.revokedAt = none) (clock : s.clock ≤ now) :
      FeedStep locale issuer (.revoke record now) s
        { s with issuer := (AcdpControlPlane.revoke record now s.issuer).2, clock := now }
  | evictExpired {s : FeedState K persistence} (now : K) (clock : s.clock ≤ now) :
      FeedStep locale issuer (.evictExpired now) s
        { s with issuer := AcdpControlPlane.evictExpired now s.issuer, clock := now }
  | isRevoked {s : FeedState K persistence} (iss jti : String) (now : K) (clock : s.clock ≤ now) :
      FeedStep locale issuer (.isRevoked iss jti now) s
        { s with issuer := (AcdpControlPlane.isRevoked iss jti now s.issuer).2, clock := now }
  | startPoll {s : FeedState K persistence} :
      FeedStep locale issuer .startPoll s { s with polls := .requested s.cursor :: s.polls }
  | answer {s : FeedState K persistence} {before after : List (Poll K)} {since : Int}
      (polls : s.polls = before ++ .requested since :: after) :
      FeedStep locale issuer .answer s
        { s with
          lastPolled := s.issuer.rows
          polls :=
            let page := normalizeFeedResponse (feed locale FEED_PAGE_LIMIT s.issuer since)
            before ++ .applying page.entries true page.nextCursor :: after }
  | transportFailure {s : FeedState K persistence} {before after : List (Poll K)} {poll : Poll K}
      (polls : s.polls = before ++ poll :: after) :
      FeedStep locale issuer .transportFailure s { s with polls := before ++ after }
  | applyEntry {s : FeedState K persistence} {before after : List (Poll K)} {e : FeedEntry K}
      {remaining : List (FeedEntry K)} {allSucceeded : Bool} {nextCursor : Option Int} (now : K)
      (fault : Fault)
      (polls : s.polls = before ++ .applying (e :: remaining) allSucceeded nextCursor :: after) :
      FeedStep locale issuer (.applyEntry now fault) s
        (let result := AcdpControlPlane.applyEntry issuer e now fault s.consumer
        { s with
          consumer := result.2.2
          applied := result.2.1.toList ++ s.applied
          polls := before ++ .applying remaining (allSucceeded && result.1) nextCursor :: after })
  | finishPoll {s : FeedState K persistence} {before after : List (Poll K)} (allSucceeded : Bool)
      (nextCursor : Option Int)
      (polls : s.polls = before ++ .applying [] allSucceeded nextCursor :: after) :
      FeedStep locale issuer .finishPoll s
        (match allSucceeded, nextCursor with
        | true, some newCursor =>
          { s with
            cursor := newCursor
            persisting := newCursor :: s.persisting
            polls := before ++ after }
        | _, _ => { s with polls := before ++ after })
  | persistCursor {s : FeedState K persistence} {before after : List Int} {newCursor : Int}
      (fault : Fault) (persisting : s.persisting = before ++ newCursor :: after) :
      FeedStep locale issuer (.persistCursor fault) s
        { s with
          persisted := if fault = .lost then s.persisted else some newCursor
          persisting := before ++ after }
  | restart {s : FeedState K persistence} (fault : Fault) :
      FeedStep locale issuer (.restart fault) s
        (match persistence with
        | .memory =>
          { s with
            consumer := .empty _
            applied := []
            cursor := 0
            persisted := none
            persisting := []
            polls := [] }
        | .postgres =>
          { s with
            cursor := if fault = .none then s.persisted.getD 0 else 0
            persisting := []
            polls := [] })

/-! ## What holds along a run -/

def FeedState.Known {persistence : Persistence} (s : FeedState K persistence)
    (e : RevocationRecord K) : Prop :=
  e ∈ s.issuer.rows ∨ e ∈ s.lastPolled

/-- A `revoke` of the consumer with the token of a record returned. -/
def FeedState.Applied {persistence : Persistence} (s : FeedState K persistence)
    (e : RevocationRecord K) : Prop :=
  ∃ r ∈ s.applied, r.iss = e.iss ∧ r.jti = e.jti ∧ r.exp = e.exp

/-- A record of the issuer's own that the consumer has to apply. -/
def Relevant (issuer : String) (e : RevocationRecord K) : Prop :=
  e.iss = issuer ∧ e.jti ≠ "" ∧ 0 < e.exp

/-- A cursor below the clock of the issuer, up to which everything is applied. -/
structure SettledCursor {persistence : Persistence} (issuer : String) (s : FeedState K persistence)
    (cursor : Int) : Prop where
  lt_clock : cursor < nowMillis s.clock
  applied : ∀ e, s.Known e → Relevant issuer e → revokedAtMs e ≤ cursor → s.Applied e

/-- What holds of a poll: it started from a settled cursor; and what lies up to its next cursor is
applied or left to do, unless something failed. -/
def Poll.Sound {persistence : Persistence} (issuer : String) (s : FeedState K persistence) :
    Poll K → Prop
  | .requested since => SettledCursor issuer s since
  | .applying remaining allSucceeded nextCursor =>
    ∀ cursor ∈ nextCursor, cursor < nowMillis s.clock ∧
      ∀ e, s.Known e → Relevant issuer e → revokedAtMs e ≤ cursor →
        s.Applied e ∨ allSucceeded = false ∨ feedEntry e ∈ remaining

/-- **The invariant of the feed.** -/
structure FeedSound {persistence : Persistence} (issuer : String) (s : FeedState K persistence) :
    Prop where
  clock : 0 < nowMillis s.clock
  stamped : ∀ e, s.Known e → 0 < revokedAtMs e ∧ revokedAtMs e ≤ nowMillis s.clock
  cursor : SettledCursor issuer s s.cursor
  persisted : ∀ cursor ∈ s.persisted, SettledCursor issuer s cursor
  persisting : ∀ cursor ∈ s.persisting, SettledCursor issuer s cursor
  polls : ∀ poll ∈ s.polls, poll.Sound issuer s

/-- From one state to a later one: records appear at the current time, and nothing that was applied is
taken back. -/
structure Later {persistence : Persistence} (s s' : FeedState K persistence) : Prop where
  clock : nowMillis s.clock ≤ nowMillis s'.clock
  known : ∀ e, s'.Known e → s.Known e ∨ revokedAtMs e = nowMillis s'.clock
  applied : ∀ e, s.Applied e → s'.Applied e

end Definitions

section Soundness

variable {K : Type} [Field K] [LinearOrder K] [FloorRing K] {persistence : Persistence}
  {locale : LocaleOrder} {issuer : String} {s s' : FeedState K persistence} {cursor : Int}
  {poll : Poll K} {record e : RevocationRecord K}

theorem Later.known_of_le (h : Later s s') (hlt : cursor < nowMillis s.clock) (hk : s'.Known e)
    (hl : revokedAtMs e ≤ cursor) : s.Known e := by
  rcases h.known e hk with hb | hn
  · exact hb
  · have := h.clock
    omega

theorem SettledCursor.later (hs : SettledCursor issuer s cursor) (h : Later s s') :
    SettledCursor issuer s' cursor := by
  refine ⟨Int.lt_of_lt_of_le hs.lt_clock h.clock, ?_⟩
  intro e hk hr hl
  have hb := h.known_of_le hs.lt_clock hk hl
  exact h.applied e (hs.applied e hb hr hl)

theorem Poll.Sound.later (hs : poll.Sound issuer s) (h : Later s s') : poll.Sound issuer s' := by
  cases poll with
  | requested since => exact SettledCursor.later hs h
  | applying remaining allSucceeded nextCursor =>
    intro cursor hc
    obtain ⟨hlt, ha⟩ := hs cursor hc
    refine ⟨Int.lt_of_lt_of_le hlt h.clock, ?_⟩
    intro e hk hre hl
    rcases ha e (h.known_of_le hlt hk hl) hre hl with hap | hr
    · exact Or.inl (h.applied e hap)
    · exact Or.inr hr

theorem FeedSound.later (hs : FeedSound issuer s) (h : Later s s')
    (hcu : s'.cursor = s.cursor ∨ SettledCursor issuer s' s'.cursor)
    (hp : ∀ cursor ∈ s'.persisted, cursor ∈ s.persisted ∨ SettledCursor issuer s' cursor)
    (hpe : ∀ cursor ∈ s'.persisting, cursor ∈ s.persisting ∨ SettledCursor issuer s' cursor)
    (hpo : ∀ poll ∈ s'.polls, poll ∈ s.polls ∨ poll.Sound issuer s') : FeedSound issuer s' := by
  have hc := h.clock
  refine ⟨Int.lt_of_lt_of_le hs.clock hc, ?_, ?_, ?_, ?_, ?_⟩
  · -- a record that is new was stamped by the clock of the later state
    intro e hk
    rcases h.known e hk with hb | hn
    · obtain ⟨hpos, hl⟩ := hs.stamped e hb
      exact ⟨hpos, Int.le_trans hl hc⟩
    · rw [hn]
      exact ⟨Int.lt_of_lt_of_le hs.clock hc, Int.le_refl _⟩
  · -- cursors and polls that were there before stay sound, as records are only applied
    rcases hcu with hsa | hn
    · rw [hsa]
      exact hs.cursor.later h
    · exact hn
  · intro cursor hm
    rcases hp cursor hm with hb | hn
    · exact (hs.persisted cursor hb).later h
    · exact hn
  · intro cursor hm
    rcases hpe cursor hm with hb | hn
    · exact (hs.persisting cursor hb).later h
    · exact hn
  · intro poll hm
    rcases hpo poll hm with hb | hn
    · exact (hs.polls poll hb).later h
    · exact hn

theorem FeedSound.settled_zero (hs : FeedSound issuer s) : SettledCursor issuer s 0 := by
  refine ⟨hs.clock, ?_⟩
  intro e hk _ hl
  have := (hs.stamped e hk).1
  omega

/-! ## The issuer's steps -/

variable {table : RevocationTable K .memory} {now : K} {before after : List (Poll K)}

theorem mem_of_mem_revoke (hs : record.revokedAt = none) (h : e ∈ (revoke record now table).2.rows) :
    e ∈ table.rows ∨ revokedAtMs e = nowMillis now := by
  unfold revoke at h
  rcases KeyedTable.mem_insert.mp h with hb | ⟨-, rfl⟩
  · exact Or.inl hb
  · refine Or.inr ?_
    simp [revokedAtMs, stampedAt, hs]

theorem mem_of_mem_isRevoked {iss jti : String}
    (h : e ∈ (isRevoked iss jti now table).2.rows) : e ∈ table.rows := by
  unfold isRevoked at h
  split at h
  · exact h
  · split at h
    · exact (KeyedTable.mem_filter.mp h).1
    · exact h

theorem FeedSound.issuerStep (hs : FeedSound issuer s) (hc : nowMillis s.clock ≤ nowMillis now)
    (hr : ∀ e ∈ table.rows, e ∈ s.issuer.rows ∨ revokedAtMs e = nowMillis now) :
    FeedSound issuer { s with issuer := table, clock := now } := by
  have hl : Later s { s with issuer := table, clock := now } := by
    refine ⟨hc, ?_, fun _ ha => ha⟩
    intro e hk
    rcases hk with hro | hp
    · rcases hr e hro with hb | hn
      · exact Or.inl (Or.inl hb)
      · exact Or.inr hn
    · exact Or.inl (Or.inr hp)
  exact hs.later hl (Or.inl rfl) (fun _ h => Or.inl h) (fun _ h => Or.inl h)
    (fun _ h => Or.inl h)

/-! ## The polls' steps -/

theorem applyEntry_cases {entry : FeedEntry K} {fault : Fault} {table : RevocationTable K persistence}
    (h : (applyEntry issuer entry now fault table).1 = true) :
    isDeadLetter issuer entry = true ∨
      (applyEntry issuer entry now fault table).2.1 = some (importedRecord issuer entry) := by
  unfold applyEntry at h ⊢
  split
  · next hd => exact Or.inl hd
  · next hl =>
    rw [if_neg hl] at h
    refine Or.inr ?_
    dsimp only at h ⊢
    split at h <;> first | rfl | cases h

omit [FloorRing K] in
theorem importedRecord_of_relevant (h : Relevant issuer e) :
    isDeadLetter issuer (feedEntry e) = false ∧
      (importedRecord issuer (feedEntry e)).iss = e.iss := by
  obtain ⟨hi, -, hex⟩ := h
  constructor
  · simp [isDeadLetter, feedEntry, hi, hex]
  · simp [importedRecord, feedEntry, hi]

theorem FeedSound.step_applyEntry (hs : FeedSound issuer s)
    {entry : FeedEntry K} {remaining : List (FeedEntry K)} {allSucceeded : Bool}
    {nextCursor : Option Int} (now : K) (fault : Fault)
    (hp : s.polls = before ++ .applying (entry :: remaining) allSucceeded nextCursor :: after) :
    FeedSound issuer
      { s with
        consumer := (applyEntry issuer entry now fault s.consumer).2.2
        applied := (applyEntry issuer entry now fault s.consumer).2.1.toList ++ s.applied
        polls := before ++ .applying remaining
          (allSucceeded && (applyEntry issuer entry now fault s.consumer).1) nextCursor :: after } := by
  have hpo : Poll.Sound issuer s (.applying (entry :: remaining) allSucceeded nextCursor) := by
    refine hs.polls _ ?_
    rw [hp]
    exact mem_append_right _ mem_cons_self
  refine hs.later ⟨Int.le_refl _, fun _ hk => Or.inl hk, ?_⟩ (Or.inl rfl)
    (fun _ h => Or.inl h) (fun _ h => Or.inl h) ?_
  · rintro e ⟨r, hr, ht⟩
    exact ⟨r, mem_append_right _ hr, ht⟩
  · intro poll hm
    rw [hp]
    rcases mem_append.mp hm with hb | hm
    · exact Or.inl (mem_append_left _ hb)
    rcases mem_cons.mp hm with rfl | ha
    · refine Or.inr ?_
      intro cursor hc
      obtain ⟨hlt, hal⟩ := hpo cursor hc
      refine ⟨hlt, ?_⟩
      intro e hk hre hle
      rcases hal e hk hre hle with ⟨r, hr, ht⟩ | hf | hl
      · exact Or.inl ⟨r, mem_append_right _ hr, ht⟩
      · exact Or.inr (Or.inl (by rw [hf, Bool.false_and]))
      · rcases mem_cons.mp hl with rfl | hl
        · -- the entry of this record is applied now, or fails
          cases hres : (applyEntry issuer (feedEntry e) now fault s.consumer).1 with
          | false => exact Or.inr (Or.inl (Bool.and_false _))
          | true =>
            obtain ⟨hli, hi⟩ := importedRecord_of_relevant hre
            rcases applyEntry_cases hres with hd | hrec
            · rw [hli] at hd
              cases hd
            · refine Or.inl ⟨importedRecord issuer (feedEntry e), ?_, hi, rfl, rfl⟩
              rw [hrec]
              exact mem_append_left _ (mem_singleton.mpr rfl)
        · exact Or.inr (Or.inr hl)
    · exact Or.inl (mem_append_right _ (mem_cons_of_mem _ ha))

theorem FeedSound.dropPoll (hs : FeedSound issuer s) (hp : s.polls = before ++ poll :: after) :
    FeedSound issuer { s with polls := before ++ after } := by
  refine hs.later ⟨Int.le_refl _, fun _ h => Or.inl h, fun _ h => h⟩ (Or.inl rfl)
    (fun _ h => Or.inl h) (fun _ h => Or.inl h) ?_
  intro other ho
  rw [hp]
  exact Or.inl (((sublist_cons_self _ _).append_left _).subset ho)

theorem FeedSound.step_answer (hs : FeedSound issuer s)
    {since : Int} (hp : s.polls = before ++ .requested since :: after) :
    FeedSound issuer
      { s with
        lastPolled := s.issuer.rows
        polls := before ++
          .applying (normalizeFeedResponse (feed locale FEED_PAGE_LIMIT s.issuer since)).entries true
            (normalizeFeedResponse (feed locale FEED_PAGE_LIMIT s.issuer since)).nextCursor :: after }
    := by
  -- the poll asked from a cursor that was settled when it started
  have hsi : SettledCursor issuer s since := by
    refine hs.polls (.requested since) ?_
    rw [hp]
    exact mem_append_right _ mem_cons_self
  refine hs.later ⟨Int.le_refl _, ?_, fun _ h => h⟩ (Or.inl rfl) (fun _ h => Or.inl h)
    (fun _ h => Or.inl h) ?_
  · -- the rows of the answer are rows of the issuer
    rintro e (hr | hr)
    · exact Or.inl (Or.inl hr)
    · exact Or.inl (Or.inl hr)
  · intro poll hm
    rw [hp]
    rcases mem_append.mp hm with hb | hm
    · exact Or.inl (mem_append_left _ hb)
    rcases mem_cons.mp hm with rfl | ha
    · refine Or.inr ?_
      intro cursor hc
      have hsp := Paging.page_append_rest revokedAtMs (pageCap FEED_PAGE_LIMIT)
        (listed locale (s.issuer.rows.filter (since < revokedAtMs ·)))
      obtain ⟨-, -, hres, hab⟩ := Paging.nextCursor_eq_some (pairwise_listed _ _) hc
      have hm : ∀ e, e ∈ s.issuer.rows ∧ since < revokedAtMs e ↔
          e ∈ listed locale (s.issuer.rows.filter (since < revokedAtMs ·)) := by
        intro e
        rw [(listed_perm _ _).mem_iff, mem_filter, decide_eq_true_iff]
      constructor
      · -- the cursor is below a record that the issuer holds
        obtain ⟨next, hn⟩ := exists_mem_of_ne_nil _ hres
        have hl := (hm next).mpr (hsp ▸ mem_append_right _ hn)
        exact Int.lt_of_lt_of_le (hab next hn) (hs.stamped next (Or.inl hl.1)).2
      · intro e hk hre hle
        have hr : e ∈ s.issuer.rows := hk.elim id id
        by_cases ho : revokedAtMs e ≤ since
        · exact Or.inl (hsi.applied e (Or.inl hr) hre ho)
        · have hl := (hm e).mp ⟨hr, Int.not_le.mp ho⟩
          rw [← hsp] at hl
          rcases mem_append.mp hl with hpa | ha
          · refine Or.inr (Or.inr (mem_filter.mpr ⟨mem_map_of_mem hpa, ?_⟩))
            exact decide_eq_true hre.2.1
          · have := hab e ha
            omega
    · exact Or.inl (mem_append_right _ (mem_cons_of_mem _ ha))

theorem FeedSound.step_finishPoll (hsn : FeedSound issuer s)
    {cursor : Int} (hp : s.polls = before ++ .applying [] true (some cursor) :: after) :
    FeedSound issuer
      { s with
        cursor := cursor
        persisting := cursor :: s.persisting
        polls := before ++ after } := by
  -- the page is done and nothing failed, so its cursor is settled
  have hs : SettledCursor issuer s cursor := by
    have hpo : Poll.Sound issuer s (.applying [] true (some cursor)) := by
      refine hsn.polls _ ?_
      rw [hp]
      exact mem_append_right _ mem_cons_self
    obtain ⟨hlt, ha⟩ := hpo cursor rfl
    refine ⟨hlt, ?_⟩
    intro e hk hr hle
    rcases ha e hk hr hle with hap | hf | hlef
    · exact hap
    · cases hf
    · cases hlef
  have hl : Later s
      { s with cursor := cursor, persisting := cursor :: s.persisting, polls := before ++ after } :=
    ⟨Int.le_refl _, fun _ h => Or.inl h, fun _ h => h⟩
  refine hsn.later hl (Or.inr (hs.later hl)) (fun _ h => Or.inl h) ?_ ?_
  · intro other ho
    rcases mem_cons.mp ho with rfl | ho
    · exact Or.inr (hs.later hl)
    · exact Or.inl ho
  · intro other ho
    rw [hp]
    exact Or.inl (((sublist_cons_self _ _).append_left _).subset ho)

theorem FeedSound.step_persistCursor (hs : FeedSound issuer s) {before after : List Int}
    {newCursor : Int} (fault : Fault) (hp : s.persisting = before ++ newCursor :: after) :
    FeedSound issuer
      { s with
        persisted := if fault = .lost then s.persisted else some newCursor
        persisting := before ++ after } := by
  have hl : Later s
      { s with
        persisted := if fault = .lost then s.persisted else some newCursor
        persisting := before ++ after } :=
    ⟨Int.le_refl _, fun _ h => Or.inl h, fun _ h => h⟩
  refine hs.later hl (Or.inl rfl) ?_ ?_ (fun _ h => Or.inl h)
  · intro cursor hc
    -- the statement is lost, or the cursor that is written was settled by its poll
    split at hc
    · exact Or.inl hc
    · cases hc
      refine Or.inr ((hs.persisting newCursor ?_).later hl)
      rw [hp]
      exact mem_append_right _ mem_cons_self
  · intro cursor hc
    rw [hp]
    exact Or.inl (((sublist_cons_self _ _).append_left _).subset hc)

end Soundness

/-! ## Runs -/

section Runs

variable {K : Type} [Field K] [LinearOrder K] [IsStrictOrderedRing K] [FloorRing K]
  {persistence : Persistence} {locale : LocaleOrder} {issuer : String}
  {s s' : FeedState K persistence} {event : FeedEvent K}
  {history : List (FeedEvent K × FeedState K persistence)}

theorem nowMillis_mono {now now' : K} (h : now ≤ now') : nowMillis now ≤ nowMillis now' :=
  Int.floor_mono (mul_le_mul_of_nonneg_right h (by norm_num))

theorem FeedSound.step (hs : FeedSound issuer s) (hst : FeedStep locale issuer event s s') :
    FeedSound issuer s' := by
  cases hst with
  | revoke record now stamp clock =>
    exact hs.issuerStep (nowMillis_mono clock) (fun e he => mem_of_mem_revoke stamp he)
  | evictExpired now clock =>
    exact hs.issuerStep (nowMillis_mono clock) (fun e he => Or.inl (KeyedTable.mem_filter.mp he).1)
  | isRevoked iss jti now clock =>
    exact hs.issuerStep (nowMillis_mono clock) (fun e he => Or.inl (mem_of_mem_isRevoked he))
  | startPoll =>
    have hl : Later s { s with polls := .requested s.cursor :: s.polls } :=
      ⟨Int.le_refl _, fun _ h => Or.inl h, fun _ h => h⟩
    refine hs.later hl (Or.inl rfl) (fun _ h => Or.inl h) (fun _ h => Or.inl h) ?_
    intro poll hm
    rcases mem_cons.mp hm with rfl | hm
    · exact Or.inr (hs.cursor.later hl)
    · exact Or.inl hm
  | answer polls => exact hs.step_answer polls
  | transportFailure polls => exact hs.dropPoll polls
  | applyEntry now fault polls => exact hs.step_applyEntry now fault polls
  | finishPoll allSucceeded nextCursor polls =>
    cases allSucceeded with
    | false => exact hs.dropPoll polls
    | true =>
      cases nextCursor with
      | none => exact hs.dropPoll polls
      | some cursor => exact hs.step_finishPoll polls
  | persistCursor fault persisting => exact hs.step_persistCursor fault persisting
  | restart fault =>
    cases persistence with
    | memory =>
      -- the cursor is 0 again, and every record is stamped after that
      refine ⟨hs.clock, hs.stamped, ⟨hs.clock, ?_⟩, (fun _ h => nomatch h),
        forall_mem_nil _, forall_mem_nil _⟩
      intro e hk _ hle
      exact absurd (hs.stamped e hk).1 (Int.not_lt.mpr hle)
    | postgres =>
      have hl : Later s
          { s with
            cursor := if fault = .none then s.persisted.getD 0 else 0
            persisting := []
            polls := [] } := ⟨Int.le_refl _, fun _ h => Or.inl h, fun _ h => h⟩
      refine hs.later hl (Or.inr (SettledCursor.later ?_ hl)) (fun _ h => Or.inl h)
        (forall_mem_nil _) (forall_mem_nil _)
      -- the cursor comes from the table, or from 0 when it cannot be read
      dsimp only
      split
      · cases hp : s.persisted with
        | none => exact hs.settled_zero
        | some cursor => exact hs.persisted cursor hp
      · exact hs.settled_zero

theorem sound_of_run {clock : K} (hc : 0 < nowMillis clock)
    (hru : TracedRun (FeedStep locale issuer) (FeedState.initial persistence clock) history s) :
    FeedSound issuer s := by
  refine hru.state_invariant ?_ (fun _ _ _ => FeedSound.step)
  have hn : ∀ e, ¬ (FeedState.initial persistence clock).Known e := by
    rintro e (hr | hp)
    · cases hr
    · cases hp
  exact ⟨hc, fun e hk => absurd hk (hn e),
    ⟨hc, fun e hk => absurd hk (hn e)⟩, (fun _ h => nomatch h),
    forall_mem_nil _, forall_mem_nil _⟩

def codeOrder : LocaleOrder where
  le a b := a ≤ b
  trans a b c hab hbc :=
    decide_eq_true (String.le_trans (of_decide_eq_true hab) (of_decide_eq_true hbc))
  total a b := by simpa using String.le_total a b

end Runs

end AcdpControlPlane
