import AcdpControlPlane.Common.Memo
import AcdpControlPlane.Common.Trace
import AcdpControlPlane.Policy.Request

/-!
# Cached policy decisions

`CachingPolicyDecider` (`src/policy/caching-policy.decider.ts`) keeps the decisions of another decider for a
few seconds. A call looks its key up; if there is no live entry, it asks the inner decider, waits, and then
stores an `allow` or a `deny`. Calls overlap: while one waits, others look up and store, and the cache can be
invalidated.
-/

namespace AcdpControlPlane.Policy

/-- A decision object, as the inner decider made it for one call. Objects are shared: what a cache entry
refers to is still that object. -/
abbrev Decided := Memo.Answer PolicyRequest PolicyDecision

abbrev Returned := Memo.Served PolicyRequest PolicyDecision

structure CacheEntry where
  decision : Decided
  expiresAt : ℤ
deriving DecidableEq, Repr

/-! ## The cache -/

/-- A `Map` of entries, the oldest first. -/
abbrev Cache := KeyedTable (Prod.fst : String × CacheEntry → String)

namespace Cache

def get (cache : Cache) (key : String) : Option CacheEntry := (cache.find? key).map Prod.snd

def set (cache : Cache) (key : String) (entry : CacheEntry) : Cache :=
  cache.upsert (key, entry) (fun row => (row.1, entry)) fun _ => rfl

def delete (cache : Cache) (key : String) : Cache := cache.filter (·.1 ≠ key)

/-- Delete the oldest entries while there are too many. -/
def dropOldest (maxEntries : ℤ) : List (String × CacheEntry) → List (String × CacheEntry)
  | [] => []
  | oldest :: rest =>
    if maxEntries < (rest.length + 1 : ℕ) then dropOldest maxEntries rest else oldest :: rest

theorem dropOldest_sublist (maxEntries : ℤ) (rows : List (String × CacheEntry)) :
    (dropOldest maxEntries rows).Sublist rows := by
  induction rows with
  | nil => exact List.Sublist.refl _
  | cons oldest rest ih =>
    unfold dropOldest
    split
    · exact ih.cons oldest
    · exact List.Sublist.refl _

theorem length_dropOldest_le (maxEntries : ℤ) (rows : List (String × CacheEntry)) :
    (dropOldest maxEntries rows).length ≤ maxEntries.toNat := by
  induction rows with
  | nil => exact Nat.zero_le _
  | cons oldest rest ih =>
    unfold dropOldest
    split
    · exact ih
    · rw [List.length_cons]
      omega

def evict (cache : Cache) (maxEntries : ℤ) : Cache :=
  ⟨dropOldest maxEntries cache.rows,
    cache.nodup.sublist ((dropOldest_sublist maxEntries cache.rows).map Prod.fst)⟩

variable {cache : Cache} {key : String} {entry : CacheEntry} {row : String × CacheEntry}

theorem mem_of_get_eq_some (h : cache.get key = some entry) : (key, entry) ∈ cache.rows := by
  obtain ⟨row, hf, rfl⟩ := Option.map_eq_some_iff.mp h
  obtain ⟨hr, rfl⟩ := KeyedTable.find?_eq_some_iff.mp hf
  exact hr

theorem mem_of_mem_set (h : row ∈ (cache.set key entry).rows) : row = (key, entry) ∨ row ∈ cache.rows := by
  rcases KeyedTable.mem_of_mem_upsert h with hr | ⟨old, _, hk, rfl⟩ | hr
  · exact Or.inl hr
  · exact Or.inl (Prod.ext hk rfl)
  · exact Or.inr hr

theorem mem_of_mem_delete (h : row ∈ (cache.delete key).rows) : row ∈ cache.rows :=
  (KeyedTable.mem_filter.mp h).1

theorem mem_of_mem_evict {maxEntries : ℤ} (h : row ∈ (cache.evict maxEntries).rows) : row ∈ cache.rows :=
  (dropOldest_sublist maxEntries cache.rows).mem h

theorem mem_of_mem_moveToBack (hg : cache.get key = some entry)
    (h : row ∈ ((cache.delete key).set key entry).rows) : row ∈ cache.rows := by
  rcases mem_of_mem_set h with rfl | hr
  · exact mem_of_get_eq_some hg
  · exact mem_of_mem_delete hr

theorem length_moveToBack_le (hg : cache.get key = some entry) :
    ((cache.delete key).set key entry).rows.length ≤ cache.rows.length := by
  have hf : key ∉ (cache.delete key).rows.map Prod.fst := by
    intro hm
    obtain ⟨row, hr, rfl⟩ := List.mem_map.mp hm
    simpa using (KeyedTable.mem_filter.mp hr).2
  have hs : (cache.delete key).rows.length < cache.rows.length :=
    List.length_filter_lt_length_iff_exists.mpr ⟨_, mem_of_get_eq_some hg, by simp⟩
  unfold set KeyedTable.upsert
  rw [if_neg hf, KeyedTable.rows_insert hf, List.length_append]
  exact hs

end Cache

/-! ## The decider -/

structure CachingPolicyOptions where
  ttlMs : Option ℤ
  maxEntries : Option ℤ

structure CachingPolicyDecider where
  ttlMs : ℤ
  maxEntries : ℤ
  cache : Cache
  hits : ℕ
  misses : ℕ

def PolicyDecision.cacheable : PolicyDecision → Bool
  | .allow => true
  | .deny _ _ => true
  | .indeterminate _ => false

/-- A call that waits for the inner decider, with the time at which it began. -/
structure Pending where
  question : Memo.Question PolicyRequest
  now : ℤ
deriving DecidableEq, Repr

namespace CachingPolicyDecider

def new (opts : CachingPolicyOptions) : CachingPolicyDecider where
  ttlMs := opts.ttlMs.getD 5000
  maxEntries := opts.maxEntries.getD 10000
  cache := KeyedTable.empty _
  hits := 0
  misses := 0

/-- The method `decide` up to the question to the inner decider: the decision of a live entry, if there is
one. -/
def lookup (d : CachingPolicyDecider) (req : PolicyRequest) (now : ℤ) :
    CachingPolicyDecider × Option Decided :=
  match d.cache.get (cacheKey req) with
  | some hit =>
    if hit.expiresAt > now then
      ({ d with
          hits := d.hits + 1
          cache := (d.cache.delete (cacheKey req)).set (cacheKey req) hit }, some hit.decision)
    else ({ d with misses := d.misses + 1 }, none)
  | none => ({ d with misses := d.misses + 1 }, none)

/-- The method `decide` after the answer of the inner decider. -/
def store (d : CachingPolicyDecider) (call : Pending) (decision : PolicyDecision) :
    CachingPolicyDecider :=
  if decision.cacheable then
    -- the entry expires after the time at which the call began, not at which it was answered
    let entry : CacheEntry := ⟨⟨call.question, decision⟩, call.now + d.ttlMs⟩
    { d with cache := (d.cache.set (cacheKey call.question.request) entry).evict d.maxEntries }
  else d

def invalidate (d : CachingPolicyDecider) (req : PolicyRequest) : CachingPolicyDecider :=
  { d with cache := d.cache.delete (cacheKey req) }

def invalidateAll (d : CachingPolicyDecider) : CachingPolicyDecider :=
  { d with cache := KeyedTable.empty _ }

/-- Every entry is stored under the key of the request it decides. -/
def Keyed (d : CachingPolicyDecider) : Prop :=
  ∀ row ∈ d.cache.rows, cacheKey row.2.decision.question.request = row.1

variable {d d' : CachingPolicyDecider} {req : PolicyRequest} {now : ℤ}

theorem lookup_eq_some {decision : Decided} (h : d.lookup req now = (d', some decision)) :
    ∃ hi, d.cache.get (cacheKey req) = some hi ∧ hi.expiresAt > now ∧ hi.decision = decision ∧
      d' = { d with
        hits := d.hits + 1
        cache := (d.cache.delete (cacheKey req)).set (cacheKey req) hi } := by
  unfold lookup at h
  split at h
  · next hi hg =>
    split at h
    · next hl =>
      obtain ⟨rfl, hd⟩ := Prod.mk.inj h
      exact ⟨hi, hg, hl, Option.some.inj hd, rfl⟩
    · exact absurd (Prod.mk.inj h).2 nofun
  · exact absurd (Prod.mk.inj h).2 nofun

theorem lookup_eq_none (h : d.lookup req now = (d', none)) : d' = { d with misses := d.misses + 1 } := by
  unfold lookup at h
  split at h
  · split at h
    · exact absurd (Prod.mk.inj h).2 nofun
    · exact (Prod.mk.inj h).1.symm
  · exact (Prod.mk.inj h).1.symm

theorem mem_store {call : Pending} {decision : PolicyDecision} {row : String × CacheEntry}
    (h : row ∈ (d.store call decision).cache.rows) :
    row ∈ d.cache.rows ∨ decision.cacheable = true ∧
      row = (cacheKey call.question.request, ⟨⟨call.question, decision⟩, call.now + d.ttlMs⟩) := by
  unfold store at h
  split at h
  · next hc =>
    rcases Cache.mem_of_mem_set (Cache.mem_of_mem_evict h) with hr | hr
    · exact Or.inr ⟨hc, hr⟩
    · exact Or.inl hr
  · exact Or.inl h

/-! ### Invariants of the decider -/

inductive Change (d : CachingPolicyDecider) : CachingPolicyDecider → Prop where
  | stay : Change d d
  | lookup (req : PolicyRequest) (now : ℤ) : Change d (d.lookup req now).1
  | store (call : Pending) (decision : PolicyDecision) : Change d (d.store call decision)
  | invalidate (req : PolicyRequest) : Change d (d.invalidate req)
  | invalidateAll : Change d d.invalidateAll

theorem Keyed.change (h : d.Keyed) (hc : Change d d') : d'.Keyed := by
  intro row hr
  cases hc with
  | stay => exact h row hr
  | lookup req now =>
    refine h row ?_
    unfold lookup at hr
    split at hr
    · next hi hg =>
      split at hr
      · exact Cache.mem_of_mem_moveToBack hg hr
      · exact hr
    · exact hr
  | store call decision =>
    rcases mem_store hr with hr | ⟨_, rfl⟩
    · exact h row hr
    · rfl
  | invalidate req => exact h row (Cache.mem_of_mem_delete hr)
  | invalidateAll => exact absurd hr List.not_mem_nil

def Bounded (maxEntries : ℤ) (d : CachingPolicyDecider) : Prop :=
  d.maxEntries = maxEntries ∧ d.cache.rows.length ≤ maxEntries.toNat

theorem Bounded.change {maxEntries : ℤ} (h : d.Bounded maxEntries) (hc : Change d d') :
    d'.Bounded maxEntries := by
  obtain ⟨hm, hl⟩ := h
  cases hc with
  | stay => exact ⟨hm, hl⟩
  | lookup req now =>
    unfold lookup
    split
    · next hit hg =>
      split
      · exact ⟨hm, (Cache.length_moveToBack_le hg).trans hl⟩
      · exact ⟨hm, hl⟩
    · exact ⟨hm, hl⟩
  | store call decision =>
    unfold store
    split
    · exact ⟨hm, hm ▸ Cache.length_dropOldest_le _ _⟩
    · exact ⟨hm, hl⟩
  | invalidate req => exact ⟨hm, (List.length_filter_le _ _).trans hl⟩
  | invalidateAll => exact ⟨hm, Nat.zero_le _⟩

end CachingPolicyDecider

/-! ## Overlapping calls -/

/-- The decider with its open calls, and what has come of the others. -/
structure Machine where
  decider : CachingPolicyDecider
  calls : ℕ
  pending : List Pending
  answers : List Decided
  returned : List Returned
  clears : List ℕ

def Machine.initial (opts : CachingPolicyOptions) : Machine :=
  ⟨.new opts, 0, [], [], [], []⟩

/-- What can happen: a call begins, the inner decider answers or throws, entries are invalidated. -/
inductive Event where
  | decide (req : PolicyRequest) (now : ℤ)
  | answer (call : ℕ) (decision : PolicyDecision)
  | reject (call : ℕ)
  | invalidate (req : PolicyRequest)
  | invalidateAll
deriving DecidableEq, Repr

namespace Machine

def find? (m : Machine) (call : ℕ) : Option Pending := m.pending.find? (·.question.call = call)

def without (m : Machine) (call : ℕ) : List Pending := m.pending.filter (·.question.call ≠ call)

def next (m : Machine) : Event → Option Machine
  | .decide req now =>
    let question : Memo.Question PolicyRequest := ⟨m.calls, req⟩
    match m.decider.lookup req now with
    | (d, some decision) =>
      some { m with decider := d, calls := m.calls + 1, returned := ⟨question, decision⟩ :: m.returned }
    | (d, none) =>
      some { m with decider := d, calls := m.calls + 1, pending := ⟨question, now⟩ :: m.pending }
  | .answer call decision => (m.find? call).map fun p =>
    { m with
      decider := m.decider.store p decision
      pending := m.without call
      answers := ⟨p.question, decision⟩ :: m.answers
      returned := ⟨p.question, ⟨p.question, decision⟩⟩ :: m.returned }
  | .reject call => (m.find? call).map fun _ => { m with pending := m.without call }
  | .invalidate req => some { m with decider := m.decider.invalidate req }
  | .invalidateAll =>
    some { m with decider := m.decider.invalidateAll, clears := m.calls :: m.clears }

def view (m : Machine) : Memo.State PolicyRequest PolicyDecision where
  calls := m.calls
  asked := {question | ∃ p ∈ m.pending, p.question = question}
  known := {decision | ∃ row ∈ m.decider.cache.rows, row.2.decision = decision}
  answers := m.answers
  served := m.returned
  clears := m.clears

end Machine

def Event.op (m : Machine) : Event → Memo.Op PolicyRequest PolicyDecision
  | .decide req now => if (m.decider.lookup req now).2.isSome then .serve req else .ask req
  | .answer call decision =>
    match m.find? call with
    | some p => .answer p.question decision decision.cacheable
    | none => .lose
  | .reject _ => .lose
  | .invalidate _ => .lose
  | .invalidateAll => .clear

variable {m m' : Machine} {event : Event}

theorem Machine.asked_without {call : ℕ} :
    {question | ∃ p ∈ m.without call, p.question = question} ⊆ m.view.asked := by
  rintro _ ⟨p, hp, rfl⟩
  exact ⟨p, List.mem_of_mem_filter hp, rfl⟩

theorem step_view (hk : m.decider.Keyed) (h : m.next event = some m') :
    Memo.Step cacheKey m.view (event.op m) m'.view := by
  cases event with
  | decide req now =>
    cases hl : m.decider.lookup req now with
    | mk d decision =>
      simp only [Machine.next, hl] at h
      simp only [Event.op, hl]
      cases decision with
      | some decision =>
        cases h
        obtain ⟨hi, hg, _, hd, rfl⟩ := CachingPolicyDecider.lookup_eq_some hl
        have hr := Cache.mem_of_get_eq_some hg
        have hkn : decision ∈ m.view.known := ⟨_, hr, hd⟩
        have hke : cacheKey decision.question.request = cacheKey req := by
          rw [← hd]
          exact hk (cacheKey req, hi) hr
        refine Memo.Step.serve hkn hke ?_
        rintro _ ⟨row, hm, rfl⟩
        exact ⟨row, Cache.mem_of_mem_moveToBack hg hm, rfl⟩
      | none =>
        cases h
        rw [CachingPolicyDecider.lookup_eq_none hl]
        refine Memo.Step.ask ?_
        rintro _ ⟨p, hp, rfl⟩
        rcases List.mem_cons.mp hp with rfl | hp
        · exact Set.mem_insert _ _
        · exact Set.mem_insert_of_mem _ ⟨p, hp, rfl⟩
  | answer call decision =>
    obtain ⟨p, hf, rfl⟩ := Option.map_eq_some_iff.mp h
    simp only [Event.op, hf]
    refine Memo.Step.answer ⟨p, List.mem_of_find?_eq_some hf, rfl⟩ Machine.asked_without ?_
    rintro _ ⟨row, hr, rfl⟩
    rcases CachingPolicyDecider.mem_store hr with hr | ⟨hc, rfl⟩
    · exact Or.inl ⟨row, hr, rfl⟩
    · exact Or.inr ⟨hc, rfl⟩
  | reject call =>
    obtain ⟨p, _, rfl⟩ := Option.map_eq_some_iff.mp h
    exact Memo.Step.lose Machine.asked_without fun _ ha => ha
  | invalidate req =>
    cases h
    refine Memo.Step.lose (fun _ hq => hq) ?_
    rintro _ ⟨row, hr, rfl⟩
    exact ⟨row, Cache.mem_of_mem_delete hr, rfl⟩
  | invalidateAll =>
    cases h
    have hem : (Machine.view { m with
        decider := m.decider.invalidateAll, clears := m.calls :: m.clears }).known = ∅ := by
      simp [Machine.view, CachingPolicyDecider.invalidateAll, KeyedTable.empty]
    have hs := @Memo.Step.clear _ _ _ cacheKey m.view
    rw [← hem] at hs
    exact hs

theorem change_next (h : m.next event = some m') : m.decider.Change m'.decider := by
  cases event with
  | decide req now =>
    have hc := CachingPolicyDecider.Change.lookup (d := m.decider) req now
    cases hl : m.decider.lookup req now with
    | mk d decision =>
      rw [hl] at hc
      simp only [Machine.next, hl] at h
      cases decision <;> cases h <;> exact hc
  | answer call decision =>
    obtain ⟨p, _, rfl⟩ := Option.map_eq_some_iff.mp h
    exact .store p decision
  | reject call =>
    obtain ⟨p, _, rfl⟩ := Option.map_eq_some_iff.mp h
    exact .stay
  | invalidate req =>
    cases h
    exact .invalidate req
  | invalidateAll =>
    cases h
    exact .invalidateAll

/-! ## Runs -/

abbrev Reaches (opts : CachingPolicyOptions) (history : List (Event × Machine)) (m : Machine) : Prop :=
  TracedRun (fun event m m' => Machine.next m event = some m') (Machine.initial opts) history m

variable {opts : CachingPolicyOptions} {history : List (Event × Machine)}

theorem Reaches.keyed (hru : Reaches opts history m) : m.decider.Keyed := by
  induction hru with
  | start => exact fun row hr => absurd hr List.not_mem_nil
  | step run next ih => exact ih.change (change_next next)

/-- The cache never has more entries than it is allowed. -/
theorem cachedEntries_le (hru : Reaches opts history m) :
    m.decider.cache.rows.length ≤ (opts.maxEntries.getD 10000).toNat := by
  have hb : m.decider.Bounded (opts.maxEntries.getD 10000) := by
    induction hru with
    | start => exact ⟨rfl, Nat.zero_le _⟩
    | step run next ih => exact ih.change (change_next next)
  exact hb.2

def Event.request? : Event → Option PolicyRequest
  | .decide req _ => some req
  | _ => none

def Event.answer? : Event → Option (ℕ × PolicyDecision)
  | .answer call decision => some (call, decision)
  | _ => none

def Requested (history : List (Event × Machine)) (req : PolicyRequest) : Prop :=
  ∃ entry ∈ history, entry.1.request? = some req

/-- Requests of a run that have the same key differ in the order of scopes and audience only. -/
def KeysApart (history : List (Event × Machine)) : Prop :=
  ∀ req req', Requested history req → Requested history req' → cacheKey req = cacheKey req' →
    req.Reordered req'

theorem keysApart_of_plain (h : ∀ req, Requested history req → req.Plain) : KeysApart history :=
  fun req req' hr hr' hk => reordered_of_cacheKey_eq (h req hr) (h req' hr') hk

/-- The inner decider answers as a function does, at all times. -/
def AnsweredBy (inner : PolicyRequest → PolicyDecision) (history : List (Event × Machine)) : Prop :=
  ∀ entry ∈ history, ∀ answer ∈ entry.1.answer?, ∀ p ∈ entry.2.pending, p.question.call = answer.1 →
    answer.2 = inner p.question.request

/-- No call that began before an `invalidateAll` is answered `allow` or `deny` after it. -/
def NotOvertaken (history : List (Event × Machine)) : Prop :=
  ∀ entry ∈ history, ∀ answer ∈ entry.1.answer?, answer.2.cacheable = true →
    ∀ clear ∈ entry.2.clears, clear ≤ answer.1

instance (inner : PolicyRequest → PolicyDecision) : Decidable (AnsweredBy inner history) := by
  unfold AnsweredBy
  infer_instance

instance : Decidable (NotOvertaken history) := by
  unfold NotOvertaken
  infer_instance

theorem Machine.find?_eq_some {call : ℕ} {p : Pending} (h : m.find? call = some p) :
    p ∈ m.pending ∧ p.question.call = call :=
  ⟨List.mem_of_find?_eq_some h, by simpa using List.find?_some h⟩

theorem Event.op_induction {P : Memo.Op PolicyRequest PolicyDecision → Prop}
    (hs : ∀ req now, event = .decide req now → P (.serve req))
    (has : ∀ req now, event = .decide req now → P (.ask req))
    (ha : ∀ decision, ∀ p ∈ m.pending, event = .answer p.question.call decision →
      P (.answer p.question decision decision.cacheable))
    (hl : P .lose) (hc : P .clear) : P (event.op m) := by
  cases event with
  | decide req now =>
    simp only [Event.op]
    split
    · exact hs req now rfl
    · exact has req now rfl
  | answer call decision =>
    simp only [Event.op]
    split
    · next p hf =>
      obtain ⟨hp, rfl⟩ := Machine.find?_eq_some hf
      exact ha decision p hp rfl
    · exact hl
  | reject call => exact hl
  | invalidate req => exact hl
  | invalidateAll => exact hc

/-! What is assumed of a run holds of each of its steps. -/

theorem Event.op_within (hm : (event, m) ∈ history) :
    (event.op m).Within {req | Requested history req} := by
  apply Event.op_induction
  · rintro req now rfl
    exact ⟨_, hm, rfl⟩
  · rintro req now rfl
    exact ⟨_, hm, rfl⟩
  · intros
    trivial
  · trivial
  · trivial

theorem Event.op_follows {inner : PolicyRequest → PolicyDecision} (h : AnsweredBy inner history)
    (hm : (event, m) ∈ history) : (event.op m).Follows inner := by
  apply Event.op_induction
  · intros
    trivial
  · intros
    trivial
  · rintro decision p hp rfl
    exact h _ hm _ rfl p hp rfl
  · trivial
  · trivial

theorem Event.op_timely (h : NotOvertaken history) (hm : (event, m) ∈ history) :
    (event.op m).Timely m.clears := by
  apply Event.op_induction
  · intros
    trivial
  · intros
    trivial
  · rintro decision p _ rfl
    exact h _ hm _ rfl
  · trivial
  · trivial

theorem Machine.view_initial : (Machine.initial opts).view = Memo.State.empty := by
  simp [Machine.initial, Machine.view, CachingPolicyDecider.new, KeyedTable.empty, Memo.State.empty]

theorem Reaches.memo {I : Memo.State PolicyRequest PolicyDecision → Prop}
    {C : Memo.State PolicyRequest PolicyDecision → Memo.Op PolicyRequest PolicyDecision → Prop}
    (start : I Memo.State.empty) (kept : ∀ {s op s'}, I s → C s op → Memo.Step cacheKey s op s' → I s')
    (hr : Reaches opts history m) (hc : ∀ event m, (event, m) ∈ history → C m.view (event.op m)) :
    I m.view := by
  induction hr with
  | start =>
    rw [Machine.view_initial]
    exact start
  | @step history m m' event run next ih =>
    have hb := ih fun event m hm => hc event m (List.mem_cons_of_mem _ hm)
    exact kept hb (hc event m List.mem_cons_self) (step_view (Reaches.keyed run) next)

/-- Along every run, a caller is returned a decision on a request of their own key. If requests of one key
differ in order only, and the inner decider does not look at order and does not change, it is the decision
on their own request. If no answer arrives after an `invalidateAll` that came between, it was asked for after
every `invalidateAll` that the call comes after. -/
theorem returned_decisions (hrun : Reaches opts history m) :
    (∀ inner : PolicyRequest → PolicyDecision,
      (∀ req req', req.Reordered req' → inner req = inner req') → AnsweredBy inner history →
      KeysApart history →
      ∀ returned ∈ m.returned, returned.answer.value = inner returned.question.request) ∧
    (NotOvertaken history → ∀ returned ∈ m.returned, ∀ clear ∈ m.clears,
      clear ≤ returned.question.call → clear ≤ returned.answer.question.call) := by
  constructor
  · intro inner hi ha hk returned hre
    have hs : Memo.Sound cacheKey {req | Requested history req} m.view :=
      hrun.memo (C := fun _ op => op.Within {req | Requested history req}) Memo.Sound.empty
        Memo.Sound.step fun event m hm => Event.op_within hm
    have ht : Memo.Truthful inner m.view :=
      hrun.memo (C := fun _ op => op.Follows inner) Memo.Truthful.empty Memo.Truthful.step
        fun event m hm => Event.op_follows ha hm
    refine hs.value_eq ht ?_ hre
    intro req hr req' hr' hke
    exact hi req req' (hk req req' hr hr' hke)
  · intro hti
    have hf : Memo.Fresh m.view :=
      hrun.memo (C := fun s op => op.Timely s.clears) Memo.Fresh.empty Memo.Fresh.step
        fun event m hm => Event.op_timely hti hm
    exact hf.served

/-! A subject reads a run with tokens of different scopes. -/

def tokenRequest (scopes : List String) : PolicyRequest :=
  PolicyGuard.policyRequest .runRead
    (some ⟨"t", none, some "did:a", some .jwt, false, some "i", false, scopes⟩)
    (some ⟨none, some (.text "r"), none⟩)

def scopeDecider (req : PolicyRequest) : PolicyDecision :=
  if "write" ∈ req.scopes then .allow else .deny .scope "missing write"

def defaultOptions : CachingPolicyOptions := ⟨none, none⟩

theorem scopeDecider_reordered (req req' : PolicyRequest) (h : req.Reordered req') :
    scopeDecider req = scopeDecider req' := by
  unfold scopeDecider
  simp only [h.scopes.mem_iff]

theorem plain_tokenRequest {scopes : List String} (h : ∀ scope ∈ scopes, PolicyRequest.PlainMember scope) :
    (tokenRequest scopes).Plain := by
  have hs : ';' ∉ "did:a".toList := by decide
  have hr : ';' ∉ "r".toList := by decide
  have ht : ';' ∉ "t".toList := by decide
  refine plain_policyRequest_iff.mpr ⟨hs, hr, ?_⟩
  rintro _ ⟨⟩
  refine ⟨h, ht, ?_⟩
  rintro _ ⟨⟩
  decide

def played (events : List Event)
    (h : (replay Machine.next events [] (Machine.initial defaultOptions)).isSome) :
    List (Event × Machine) × Machine :=
  (replay Machine.next events [] (Machine.initial defaultOptions)).get h

theorem reaches_played (events : List Event)
    (h : (replay Machine.next events [] (Machine.initial defaultOptions)).isSome) :
    Reaches defaultOptions (played events h).1 (played events h).2 := by
  have hr : replay Machine.next events [] (Machine.initial defaultOptions) = some (played events h) :=
    (Option.some_get h).symm
  exact TracedRun.start.replay hr

/-- The second call is returned the decision of the first; the third asks again. -/
def calmRun : List (Event × Machine) × Machine :=
  played
    [.decide (tokenRequest ["read", "write"]) 0, .answer 0 .allow,
      .decide (tokenRequest ["write", "read"]) 1, .invalidateAll,
      .decide (tokenRequest ["read", "write"]) 2, .answer 2 .allow]
    (by decide)

theorem cachedEntries_calm : calmRun.2.decider.cache.rows.length ≤ 10000 :=
  cachedEntries_le (reaches_played _ _ : Reaches defaultOptions calmRun.1 calmRun.2)

theorem plain_of_requested_calmRun {req : PolicyRequest} (h : Requested calmRun.1 req) : req.Plain := by
  have hr : ∀ scope ∈ ["read", "write"], PolicyRequest.PlainMember scope := by
    unfold PolicyRequest.PlainMember
    decide
  have hw : ∀ scope ∈ ["write", "read"], PolicyRequest.PlainMember scope := by
    unfold PolicyRequest.PlainMember
    decide
  have hre : ∀ entry ∈ calmRun.1, ∀ req ∈ entry.1.request?,
      req = tokenRequest ["read", "write"] ∨ req = tokenRequest ["write", "read"] := by decide
  obtain ⟨entry, hen, hreq⟩ := h
  rcases hre entry hen req hreq with rfl | rfl
  · exact plain_tokenRequest hr
  · exact plain_tokenRequest hw

theorem returned_decisions_calm :
    calmRun.2.returned.length = 3 ∧
      (∀ returned ∈ calmRun.2.returned, returned.answer.value = scopeDecider returned.question.request) ∧
      ∀ returned ∈ calmRun.2.returned, ∀ clear ∈ calmRun.2.clears,
        clear ≤ returned.question.call → clear ≤ returned.answer.question.call := by
  obtain ⟨hr, hf⟩ := returned_decisions (reaches_played _ _ : Reaches defaultOptions calmRun.1 calmRun.2)
  have ha : KeysApart calmRun.1 := keysApart_of_plain fun _ => plain_of_requested_calmRun
  exact ⟨by decide, hr scopeDecider scopeDecider_reordered (by decide) ha, hf (by decide)⟩

/-- A token with the one scope `read,write` is returned what was decided for the two scopes. -/
def collidingRun : List (Event × Machine) × Machine :=
  played
    [.decide (tokenRequest ["read", "write"]) 0, .answer 0 .allow,
      .decide (tokenRequest ["read,write"]) 1]
    (by decide)

/-- The first call waits while everything is invalidated, and then stores its decision. -/
def overtakenRun : List (Event × Machine) × Machine :=
  played
    [.decide (tokenRequest ["read", "write"]) 0, .invalidateAll, .answer 0 .allow,
      .decide (tokenRequest ["read", "write"]) 1]
    (by decide)

/-- The inner decider would have denied the second request, and the decision is older than the last
`invalidateAll` before the call. -/
theorem returned_decisions_fail :
    ((∀ req req', PolicyRequest.Reordered req req' → scopeDecider req = scopeDecider req') ∧
      Reaches defaultOptions collidingRun.1 collidingRun.2 ∧ AnsweredBy scopeDecider collidingRun.1 ∧
      ∃ returned ∈ collidingRun.2.returned,
        returned.answer.value = .allow ∧
        scopeDecider returned.question.request = .deny .scope "missing write") ∧
    (Reaches defaultOptions overtakenRun.1 overtakenRun.2 ∧
      ∃ returned ∈ overtakenRun.2.returned, ∃ clear ∈ overtakenRun.2.clears,
        returned.answer.question.call < clear ∧ clear ≤ returned.question.call) := by
  refine ⟨⟨scopeDecider_reordered, ?_, by decide, by decide⟩, ?_, by decide⟩
  · exact reaches_played _ _
  · exact reaches_played _ _

end AcdpControlPlane.Policy
