import AcdpControlPlane.Common.Js

/-!
# Readiness probes

`ReadinessService` (`src/health/readiness.service.ts`) answers from a verdict that is young enough, from the
probe in flight, or from a new one. A probe has a query and a deadline. The first of them decides the verdict
that is returned, but the probe stays in flight until the query has settled, and a query that succeeds after
the deadline still replaces the verdict that is kept.
-/

namespace AcdpControlPlane.Readiness

/-! ## Verdicts -/

inductive DownReason where
  | error
  | timeout

inductive DbStatus where
  | up
  | down (reason : DownReason)

def DbStatus.isUp : DbStatus → Bool
  | up => true
  | down _ => false

/-- What a report-only source says, if anything; it may throw. -/
abbrev Reported := Except JsError (Option Bool)

structure ReadinessVerdict where
  ready : Bool
  checkedAt : Int
  database : DbStatus
  latencyMs : Int
  streamHub : Option Bool
  quotaStore : Option Bool

/-- A source that throws is left out, with those after it. -/
def withReported (hub quota : Reported) (v : ReadinessVerdict) : ReadinessVerdict :=
  match hub, quota with
  | .error _, _ => v
  | .ok streamHub, .error _ => { v with streamHub }
  | .ok streamHub, .ok quotaStore => { v with streamHub, quotaStore }

theorem withReported_same (hu quota : Reported) (v : ReadinessVerdict) :
    (withReported hu quota v).ready = v.ready ∧ (withReported hu quota v).checkedAt = v.checkedAt := by
  unfold withReported
  split <;> exact ⟨rfl, rfl⟩

/-! ## Probes -/

inductive QueryStage where
  | running
  | settled
  | done
deriving DecidableEq

structure Probe where
  startedAt : Int
  query : QueryStage
  verdict : Option ReadinessVerdict
  waiters : List Int

structure ReadinessService where
  last : Option ReadinessVerdict
  lastSeq : ℕ
  seq : ℕ
  inFlight : Option ℕ
  probes : ℕ → Option Probe
  gauge : Option Bool
  successes : List Int
  answers : List (Int × ReadinessVerdict)
  clock : Int

inductive QueryOutcome where
  | success
  | failure
  | unreadable

inductive ReadinessEvent where
  | evaluate
  | deadline (seq : ℕ)
  | settle (seq : ℕ) (outcome : QueryOutcome)
  | finish (seq : ℕ)

/-- An event, and what the report-only sources say at the time. -/
structure Turn where
  event : ReadinessEvent
  now : Int
  hub : Reported
  quota : Reported

namespace ReadinessService

def initial (clock : Int) : ReadinessService := ⟨none, 0, 0, none, fun _ => none, none, [], [], clock⟩

def verdictOf (s : ReadinessService) (p : Probe) (status : DbStatus) : ReadinessVerdict :=
  ⟨status.isUp, s.clock, status, s.clock - p.startedAt, none, none⟩

def record (s : ReadinessService) (seq : ℕ) (v : ReadinessVerdict) : ReadinessService :=
  if seq < s.lastSeq then s
  else { s with last := some v, lastSeq := seq, gauge := some v.ready }

def setProbe (s : ReadinessService) (seq : ℕ) (p : Probe) : ReadinessService :=
  { s with probes := Function.update s.probes seq (some p) }

def answer (s : ReadinessService) (turn : Turn) (calls : List Int) (v : ReadinessVerdict) : ReadinessService :=
  { s with answers := calls.map (·, withReported turn.hub turn.quota v) ++ s.answers }

/-- `decide`: the first to come stores its verdict, and those who wait get it. -/
def resolve (s : ReadinessService) (turn : Turn) (seq : ℕ) (p : Probe) (status : DbStatus) :
    ReadinessService :=
  match p.verdict with
  | some _ => s.setProbe seq p
  | none =>
    let v := s.verdictOf p status
    ((s.record seq v).setProbe seq { p with verdict := some v, waiters := [] }).answer turn p.waiters v

def await (s : ReadinessService) (turn : Turn) : ReadinessService :=
  match s.inFlight with
  | some seq =>
    match s.probes seq with
    | none => s
    | some p =>
      match p.verdict with
      | some v => s.answer turn [s.clock] v
      | none => s.setProbe seq { p with waiters := s.clock :: p.waiters }
  | none =>
    { s with seq := s.seq + 1, inFlight := some (s.seq + 1) }.setProbe (s.seq + 1)
      ⟨s.clock, .running, none, [s.clock]⟩

def evaluate (cacheMs : ℕ) (s : ReadinessService) (turn : Turn) : ReadinessService :=
  match s.last.filter (s.clock - ·.checkedAt < cacheMs) with
  | some v => s.answer turn [s.clock] v
  | none => s.await turn

/-- The callback of a query. A success after the deadline is recorded, and returned to nobody. -/
def settle (s : ReadinessService) (turn : Turn) (seq : ℕ) (p : Probe) : QueryOutcome → ReadinessService
  | .success =>
    let s := { s with successes := s.clock :: s.successes }
    match p.verdict with
    | none => s.resolve turn seq p .up
    | some _ => (s.record seq (s.verdictOf p .up)).setProbe seq p
  | .failure => s.resolve turn seq p (.down .error)
  | .unreadable => s.setProbe seq p

def advance (s : ReadinessService) (turn : Turn) (seq : ℕ) (p : Probe) : ReadinessService :=
  match turn.event, p.query with
  | .deadline _, _ => s.resolve turn seq p (.down .timeout)
  | .settle _ outcome, .running => s.settle turn seq { p with query := .settled } outcome
  | .finish _, .settled =>
    { s with inFlight := if s.inFlight = some seq then none else s.inFlight }.setProbe seq
      { p with query := .done }
  | _, _ => s

/-- The clock stands still between the microtasks of a turn. -/
def tick (s : ReadinessService) (now : Int) : ReadinessService :=
  if (s.inFlight.bind s.probes).any (·.query = .settled) then s else { s with clock := max s.clock now }

def step (cacheMs : ℕ) (s : ReadinessService) (turn : Turn) : ReadinessService :=
  let s := s.tick turn.now
  match turn.event with
  | .evaluate => s.evaluate cacheMs turn
  | .deadline seq | .settle seq _ | .finish seq =>
    match s.probes seq with
    | some p => s.advance turn seq p
    | none => s

def run (cacheMs : ℕ) (clock : Int) (turns : List Turn) : ReadinessService :=
  turns.foldl (step cacheMs) (initial clock)

end ReadinessService

/-! ## The invariant -/

/-- A verdict that says ready was made when a query succeeded. -/
def Earned (successes : List Int) (v : ReadinessVerdict) : Prop := v.ready = true → v.checkedAt ∈ successes

structure Probe.Sound (inFlight : Option ℕ) (successes : List Int) (clock : Int) (seq : ℕ) (p : Probe) :
    Prop where
  slot : p.query ≠ .done ↔ inFlight = some seq
  waiters : ∀ t ∈ p.waiters, t ≤ clock
  answered : p.verdict ≠ none → p.waiters = []
  earned : ∀ v ∈ p.verdict, Earned successes v
  fresh : ∀ v ∈ p.verdict, v.ready = true → p.query = .done ∨ p.query = .settled ∧ clock ≤ v.checkedAt

structure Sound (cacheMs : ℕ) (s : ReadinessService) : Prop where
  probes : ∀ seq p, s.probes seq = some p → p.Sound s.inFlight s.successes s.clock seq
  slot : ∀ seq, s.inFlight = some seq → s.probes seq ≠ none
  gauge : s.gauge = s.last.map (·.ready)
  last : ∀ v ∈ s.last, Earned s.successes v
  answers : ∀ a ∈ s.answers, Earned s.successes a.2 ∧ (a.2.ready = true → a.1 ≤ a.2.checkedAt + cacheMs)

section Steps

variable {cacheMs : ℕ} {s : ReadinessService} {turn : Turn} {seq : ℕ} {p : Probe} {v : ReadinessVerdict}

theorem Sound.update (h : Sound cacheMs s) {inFlight : Option ℕ} {n : ℕ}
    (hp : p.Sound inFlight s.successes s.clock seq)
    (ho : ∀ seq' ≠ seq, inFlight = some seq' ↔ s.inFlight = some seq') :
    Sound cacheMs ({ s with seq := n, inFlight }.setProbe seq p) := by
  refine ⟨fun seq' q hq => ?_, fun seq' hi => ?_, h.gauge, h.last, h.answers⟩
  all_goals by_cases hs : seq' = seq
  · subst hs
    cases (Function.update_self ..).symm.trans hq
    exact hp
  · have hq' := h.probes seq' q ((Function.update_of_ne hs ..).symm.trans hq)
    exact ⟨hq'.slot.trans (ho seq' hs).symm, hq'.waiters, hq'.answered, hq'.earned, hq'.fresh⟩
  · subst hs
    exact (Function.update_self ..).trans_ne (Option.some_ne_none _)
  · exact (Function.update_of_ne hs ..).trans_ne (h.slot seq' ((ho seq' hs).mp hi))

theorem Sound.setProbe (h : Sound cacheMs s) (hp : p.Sound s.inFlight s.successes s.clock seq) :
    Sound cacheMs (s.setProbe seq p) :=
  h.update hp fun _ _ => .rfl

theorem Sound.record (h : Sound cacheMs s) (hv : Earned s.successes v) : Sound cacheMs (s.record seq v) := by
  unfold ReadinessService.record
  split
  · exact h
  · refine ⟨h.probes, h.slot, rfl, ?_, h.answers⟩
    rintro _ ⟨⟩
    exact hv

theorem record_same (s : ReadinessService) (seq : ℕ) (v : ReadinessVerdict) :
    (s.record seq v).inFlight = s.inFlight ∧ (s.record seq v).successes = s.successes ∧
      (s.record seq v).clock = s.clock := by
  unfold ReadinessService.record
  split <;> exact ⟨rfl, rfl, rfl⟩

theorem Sound.answer (h : Sound cacheMs s) {calls : List Int} (hv : Earned s.successes v)
    (hc : v.ready = true → ∀ t ∈ calls, t ≤ v.checkedAt + cacheMs) :
    Sound cacheMs (s.answer turn calls v) := by
  obtain ⟨hre, ha⟩ := withReported_same turn.hub turn.quota v
  refine ⟨h.probes, h.slot, h.gauge, h.last,
    List.forall_mem_append.mpr ⟨List.forall_mem_map.mpr fun t ht => ?_, h.answers⟩⟩
  unfold Earned
  rw [hre, ha]
  exact ⟨hv, fun hr => hc hr t ht⟩

theorem Sound.resolve {status : DbStatus} (h : Sound cacheMs s)
    (hp : p.Sound s.inFlight s.successes s.clock seq)
    (hu : status.isUp = true → s.clock ∈ s.successes ∧ p.query = .settled) :
    Sound cacheMs (s.resolve turn seq p status) := by
  unfold ReadinessService.resolve
  split
  · exact h.setProbe hp
  · obtain ⟨hi, hs, hc⟩ := record_same s seq (s.verdictOf p status)
    have hv : Earned s.successes (s.verdictOf p status) := fun hr => (hu hr).1
    refine ((h.record hv).setProbe ?_).answer (hs ▸ hv) fun _ t ht => ?_
    · rw [hi, hs, hc]
      refine ⟨hp.slot, nofun, fun _ => rfl, ?_, ?_⟩
      · rintro _ ⟨⟩
        exact hv
      · rintro _ ⟨⟩ hr
        exact .inr ⟨(hu hr).2, le_rfl⟩
    · exact (hp.waiters t ht).trans (Int.le_add_of_nonneg_right (Int.natCast_nonneg _))

theorem Sound.await (h : Sound cacheMs s) : Sound cacheMs (s.await turn) := by
  unfold ReadinessService.await
  split
  · next seq hi =>
    split
    · exact h
    · next p hse =>
      have hp := h.probes seq p hse
      split
      · next v hv =>
        refine h.answer (hp.earned v hv) fun hr => List.forall_mem_singleton.mpr ?_
        -- it has just been made, since the probe is still in flight
        have hj := ((hp.fresh v hv hr).resolve_left (hp.slot.mpr hi)).2
        exact hj.trans (Int.le_add_of_nonneg_right (Int.natCast_nonneg _))
      · next hno =>
        refine h.setProbe ⟨hp.slot, List.forall_mem_cons.mpr ⟨le_rfl, hp.waiters⟩,
          fun hn => (hn hno).elim, hp.earned, hp.fresh⟩
  · next hi =>
    refine h.update ⟨⟨fun _ => rfl, nofun⟩, List.forall_mem_singleton.mpr le_rfl, fun hn => (hn rfl).elim,
      nofun, nofun⟩ fun seq' hn => ?_
    rw [hi]
    exact iff_of_false (fun hs => hn (Option.some.inj hs).symm) nofun

theorem Probe.Sound.success {inFlight : Option ℕ} {successes : List Int} {clock t : Int}
    (h : p.Sound inFlight successes clock seq) : p.Sound inFlight (t :: successes) clock seq :=
  ⟨h.slot, h.waiters, h.answered, fun v hv hr => List.mem_cons_of_mem _ (h.earned v hv hr), h.fresh⟩

theorem Sound.success (h : Sound cacheMs s) {t : Int} :
    Sound cacheMs { s with successes := t :: s.successes } :=
  ⟨fun seq p hp => (h.probes seq p hp).success, h.slot, h.gauge,
    fun v hv hr => List.mem_cons_of_mem _ (h.last v hv hr),
    fun a ha => ⟨fun hr => List.mem_cons_of_mem _ ((h.answers a ha).1 hr), (h.answers a ha).2⟩⟩

theorem Sound.settle {outcome : QueryOutcome} (h : Sound cacheMs s)
    (hp : p.Sound s.inFlight s.successes s.clock seq) (hst : p.query = .settled) :
    Sound cacheMs (s.settle turn seq p outcome) := by
  cases outcome with
  | failure => exact h.resolve hp nofun
  | unreadable => exact h.setProbe hp
  | success =>
    have hn : s.clock ∈ s.clock :: s.successes := List.mem_cons_self ..
    dsimp only [ReadinessService.settle]
    split
    · exact h.success.resolve hp.success fun _ => ⟨hn, hst⟩
    · refine (h.success.record fun _ => hn).setProbe ?_
      obtain ⟨hi, hs, hc⟩ := record_same { s with successes := s.clock :: s.successes } seq
        (ReadinessService.verdictOf { s with successes := s.clock :: s.successes } p .up)
      rw [hi, hs, hc]
      exact hp.success

theorem Sound.advance (h : Sound cacheMs s) (hse : s.probes seq = some p) :
    Sound cacheMs (s.advance turn seq p) := by
  have hp := h.probes seq p hse
  unfold ReadinessService.advance
  split
  · exact h.resolve hp nofun
  · next hru =>
    refine h.settle ⟨⟨fun _ => hp.slot.mp (by rw [hru]; nofun), nofun⟩, hp.waiters, hp.answered, hp.earned,
      fun v hv hr => ?_⟩ rfl
    -- a query that runs has not made its probe ready
    rcases hp.fresh v hv hr with hd | ⟨hs, -⟩
    · cases hru.symm.trans hd
    · cases hru.symm.trans hs
  · next hs =>
    have hi := hp.slot.mp (by rw [hs]; nofun)
    rw [if_pos hi]
    refine h.update ⟨⟨fun hn => (hn rfl).elim, nofun⟩, hp.waiters, hp.answered, hp.earned,
      fun _ _ _ => .inl rfl⟩ fun seq' hn => ?_
    rw [hi]
    exact iff_of_false nofun fun hsa => hn (Option.some.inj hsa).symm
  · exact h

theorem Sound.tick (h : Sound cacheMs s) (now : Int) : Sound cacheMs (s.tick now) := by
  unfold ReadinessService.tick
  split
  · exact h
  · next hm =>
    refine ⟨fun seq p hs => ?_, h.slot, h.gauge, h.last, h.answers⟩
    have hp := h.probes seq p hs
    refine ⟨hp.slot, fun t ht => (hp.waiters t ht).trans (le_max_left ..), hp.answered, hp.earned,
      fun v hv hr => ?_⟩
    refine (hp.fresh v hv hr).imp_right fun hst => (hm ?_).elim
    rw [hp.slot.mp (by rw [hst.1]; nofun), Option.bind_some, hs]
    exact decide_eq_true hst.1

theorem Sound.run (cacheMs : ℕ) (clock : Int) (turns : List Turn) :
    Sound cacheMs (ReadinessService.run cacheMs clock turns) := by
  refine List.foldlRecOn turns (ReadinessService.step cacheMs) ⟨nofun, nofun, rfl, nofun, nofun⟩
    fun s h turn _ => ?_
  have h' := h.tick turn.now
  unfold ReadinessService.step
  dsimp only
  split
  · unfold ReadinessService.evaluate
    split
    · next v hv =>
      obtain ⟨hl, hy⟩ := Option.filter_eq_some_iff.mp hv
      refine h'.answer (h'.last v hl) fun _ => List.forall_mem_singleton.mpr ?_
      rw [decide_eq_true_eq] at hy
      omega
    · exact h'.await
  all_goals
    split
    · next hs => exact h'.advance hs
    · exact h'

end Steps

end AcdpControlPlane.Readiness
