import AcdpControlPlane.Shutdown.Invariant

/-!
# Shutdown ends

In the process the main program, the close, the deadline, the reaper and further signals take turns in any
order. If signals come as events of their own, while no synchronous call is under way, there is one run of
the handler. If moreover the errors of the close and of the flush can be read and logged, it is left once:
every step that is taken brings it closer, there is always one to take, and the exit code is 0 exactly if
all went well. Both errors are logged outside of any `try`, so that without the second condition the promise
of the handler rejects, and the process is not left at all.
-/

namespace AcdpControlPlane.Shutdown

namespace Machine

def exitCodes (m : Machine) : List Int := m.runs.flatMap Run.exitCodes

def closeCalls (m : Machine) : ℕ := (m.runs.map Run.closeCalls).sum

def steps (m : Machine) : ℕ := (m.runs.map Run.steps).sum

/-- No synchronous call is under way. -/
def atRest (m : Machine) : Bool :=
  m.signals == 0 && m.runs.all fun r =>
    suspended r.main && r.tick.isNone && r.closer.all fun closer => suspended closer.program

end Machine

/-- Events that bring a shutdown closer to its end. -/
def Event.progresses : Event → Bool
  | .signal _ | .tick _ | .reap _ _ _ => false
  | _ => true

/-- Signals come while no synchronous call is under way, and the errors of the flush, and of a close before
the deadline, are reported. -/
def calm (m : Machine) : Event → Bool
  | .signal _ => m.atRest
  | .main _ c answer => reported c answer
  | .closer i c answer => reported c answer || m.runs[i]?.any Run.timedOut
  | _ => true

/-! ## The process -/

section Good

variable {deps : ShutdownDeps} {m m' : Machine} {r r' : Run} {event : Event} {c : Call}

def Run.delaying (r : Run) : Option ℕ :=
  match r.main.pending with
  | some (.delay _) => some 0
  | _ => none

/-- A calm process: no signal has come, or one run is under way. -/
inductive Good (deps : ShutdownDeps) : Machine → Prop where
  | idle : Good deps .initial
  | running {r : Run} {signals : ℕ} (run : GoodRun deps r)
      (logging : signals = 0 ∨ signals = 1 ∧ r.delaying = some 0) :
      Good deps ⟨[r], r.delaying, signals, false⟩

theorem proceed_eq (hp : r.main.pending = some c) :
    Machine.proceed ⟨[r], r.delaying, 0, false⟩ 0 c r' = ⟨[r'], r'.delaying, 0, false⟩ := by
  simp only [Machine.proceed, Machine.put, List.set_cons_zero, Run.delaying, hp]
  cases hp' : r'.main.pending with
  | none => cases c <;> rfl
  | some c' => cases c' <;> cases c <;> rfl

theorem put_eq (hm : r'.main = r.main) :
    Machine.put ⟨[r], r.delaying, 0, false⟩ 0 r' = ⟨[r'], r'.delaying, 0, false⟩ := by
  simp only [Machine.put, List.set_cons_zero, Run.delaying, hm]

theorem eq_zero_of_getElem? {r r₀ : Run} {i : ℕ} (h : [r][i]? = some r₀) : i = 0 ∧ r₀ = r := by
  cases i with
  | zero => exact ⟨rfl, (Option.some.inj h).symm⟩
  | succ i => simp at h

theorem Good.onMain {answer : Except Thrown c.Result} {i : ℕ} (h : GoodRun deps r)
    (hre : reported c answer = true)
    (hn : Machine.onMain ⟨[r], r.delaying, 0, false⟩ i c answer = some m') :
    Good deps m' ∧ m'.steps = r.steps + 1 := by
  obtain ⟨r₀, hi, hr⟩ := Option.bind_eq_some_iff.mp hn
  obtain ⟨rfl, rfl⟩ := eq_zero_of_getElem? hi
  obtain ⟨r', ha, hp⟩ := Option.bind_eq_some_iff.mp hr
  obtain ⟨hg, hs, hpe⟩ := h.answerMain hre ha
  rw [proceed_eq hpe] at hp
  cases hp
  exact ⟨.running hg (Or.inl rfl), by simpa [Machine.steps] using hs⟩

theorem Good.onAdvance {i : ℕ} (h : GoodRun deps r)
    (hn : Machine.onAdvance ⟨[r], r.delaying, 0, false⟩ i = some m') :
    Good deps m' ∧ m'.steps = r.steps + 1 := by
  obtain ⟨r₀, hi, hr⟩ := Option.bind_eq_some_iff.mp hn
  obtain ⟨rfl, rfl⟩ := eq_zero_of_getElem? hi
  obtain ⟨c, hpe, hr⟩ := Option.bind_eq_some_iff.mp hr
  obtain ⟨r', ha, hp⟩ := Option.bind_eq_some_iff.mp hr
  obtain ⟨hg, hs⟩ := h.advance ha
  rw [proceed_eq hpe] at hp
  cases hp
  exact ⟨.running hg (Or.inl rfl), by simpa [Machine.steps] using hs⟩

theorem Good.onRun {i : ℕ} {change : Run → Option Run} (hc : ∀ {r'}, change r = some r' →
      GoodRun deps r' ∧ r'.steps = r.steps + 1 ∧ r'.main = r.main)
    (hn : Machine.onRun ⟨[r], r.delaying, 0, false⟩ i change = some m') :
    Good deps m' ∧ m'.steps = r.steps + 1 := by
  obtain ⟨r₀, hi, hr⟩ := Option.bind_eq_some_iff.mp hn
  obtain ⟨rfl, rfl⟩ := eq_zero_of_getElem? hi
  obtain ⟨r', hch, hp⟩ := Option.bind_eq_some_iff.mp hr
  obtain ⟨hg, hs, hm⟩ := hc hch
  rw [put_eq hm] at hp
  cases hp
  exact ⟨.running hg (Or.inl rfl), by simpa [Machine.steps] using hs⟩

theorem Good.onTick {i : ℕ} {change : Run → Option (Task Bool)} (h : GoodRun deps r)
    (hc : ∀ {p}, change r = some p → Harmless p)
    (hn : Machine.onTick ⟨[r], r.delaying, 0, false⟩ i change = some m') :
    Good deps m' ∧ m'.steps = r.steps := by
  obtain ⟨r₀, hi, hr⟩ := Option.bind_eq_some_iff.mp hn
  obtain ⟨rfl, rfl⟩ := eq_zero_of_getElem? hi
  obtain ⟨p, hti, hp⟩ := Option.bind_eq_some_iff.mp hr
  obtain ⟨hg, ht, hs, hm⟩ := h.tickTo (hc hti)
  dsimp only at hp
  rw [put_eq hm, ht] at hp
  cases hp
  exact ⟨.running hg (Or.inl rfl), by simpa [Machine.steps] using hs⟩

theorem Good.onSignalLogged {signals : ℕ} (h : GoodRun deps r)
    (hl : signals = 0 ∨ signals = 1 ∧ r.delaying = some 0)
    (hn : Machine.onSignalLogged ⟨[r], r.delaying, signals, false⟩ = some m') :
    Good deps m' ∧ m'.steps = r.steps + 1 := by
  rcases hl with rfl | ⟨rfl, hd⟩
  · cases hn
  · simp only [Machine.onSignalLogged, hd, Machine.finishDelay, List.getElem?_cons_zero,
      Option.bind_eq_bind, Option.bind_some] at hn
    split at hn
    · rw [← hd] at hn
      exact Good.onMain h rfl hn
    · cases hn

theorem Good.onSignal (h : Good deps m) (hr : m.atRest = true) (signal : Option String) :
    Good deps (m.onSignal deps signal) ∧ (m.onSignal deps signal).steps = m.steps := by
  cases h with
  | idle =>
    have hst : Machine.onSignal deps .initial signal =
        ⟨[Run.start deps signal], (Run.start deps signal).delaying, 0, false⟩ := rfl
    exact ⟨.running (goodRun_start deps signal) (Or.inl rfl), rfl⟩
  | @running r signals hru hl =>
    have hsi : signals = 0 := by
      simp only [Machine.atRest, Bool.and_eq_true_iff, beq_iff_eq] at hr
      exact hr.1
    have hsu : suspended r.main = true := by
      simp only [Machine.atRest, List.all_cons, List.all_nil, Bool.and_true, Bool.and_eq_true_iff] at hr
      exact hr.2.1.1
    subst hsi
    have hi : Machine.inFlight ⟨[r], r.delaying, 0, false⟩ = true := by
      simp [Machine.inFlight, hru.returned hsu]
    simp only [Machine.onSignal, hi, if_true]
    split
    · next hs =>
      refine ⟨.running hru (Or.inr ⟨rfl, ?_⟩), rfl⟩
      unfold Run.delaying at hs ⊢
      split at hs
      · rfl
      · cases hs
    · exact ⟨.running hru (Or.inl rfl), rfl⟩

theorem signals_eq_zero {signals : ℕ} {next : Option Machine}
    (h : (if signals = 0 then next else none) = some m') : signals = 0 ∧ next = some m' := by
  split at h
  · next hz => exact ⟨hz, h⟩
  · cases h

theorem Good.next (h : Good deps m) (hc : calm m event = true) (hn : m.next deps event = some m') :
    Good deps m' ∧ m'.steps = m.steps + event.progresses.toNat := by
  cases event with
  | signal signal =>
    cases hn
    exact h.onSignal hc signal
  | signalLogged answer =>
    cases h with
    | idle => cases hn
    | running hr hl => exact Good.onSignalLogged hr hl hn
  | main i c answer =>
    cases h with
    | idle => cases hn
    | running hr hl =>
      obtain ⟨rfl, hn⟩ := signals_eq_zero hn
      exact Good.onMain hr hc hn
  | advance i =>
    cases h with
    | idle => cases hn
    | running hr hl =>
      obtain ⟨rfl, hn⟩ := signals_eq_zero hn
      exact Good.onAdvance hr hn
  | closer i c answer =>
    cases h with
    | idle => cases hn
    | @running r signals hr hl =>
      obtain ⟨rfl, hn⟩ := signals_eq_zero hn
      refine Good.onRun (fun ha => hr.answerCloser ?_ ha) hn
      rcases Bool.or_eq_true_iff.mp hc with hre | han
      · exact Or.inl hre
      · obtain ⟨r₀, hi, ht⟩ := (Option.any_eq_true _ _).mp han
        obtain ⟨-, rfl⟩ := eq_zero_of_getElem? hi
        exact Or.inr ht
  | advanceCloser i =>
    cases h with
    | idle => cases hn
    | running hr hl =>
      obtain ⟨rfl, hn⟩ := signals_eq_zero hn
      exact Good.onRun (fun had => hr.advanceCloser had) hn
  | deadline i =>
    cases h with
    | idle => cases hn
    | running hr hl =>
      obtain ⟨rfl, hn⟩ := signals_eq_zero hn
      exact Good.onRun (fun hd => hr.deadline hd) hn
  | tick i =>
    cases h with
    | idle => cases hn
    | running hr hl =>
      obtain ⟨rfl, hn⟩ := signals_eq_zero hn
      refine Good.onTick hr (fun hs => ?_) hn
      unfold Run.startTick at hs
      split at hs
      · cases hs
        exact harmless_reaperTick deps _
      · cases hs
  | reap i c answer =>
    cases h with
    | idle => cases hn
    | running hr hl =>
      obtain ⟨rfl, hn⟩ := signals_eq_zero hn
      exact Good.onTick hr (fun ha => harmless_answerTick hr ha) hn

/-! ## The end -/

variable {history : List (Event × Machine)}

/-- What is asked of a shutdown: its promise does not reject and nothing else throws, the application is
closed at most once, the process is left at most once, and when the shutdown has ended it has been left with
the code 0 if all went well and 1 otherwise. It does end: no run takes more than 39 steps, and as long
as it has not ended there is a step to take. -/
structure Ends (deps : ShutdownDeps) (history : List (Event × Machine)) (m : Machine) : Prop where
  resolves : m.threw = false ∧ ∀ r ∈ m.runs, ∀ err, r.main ≠ .throw err
  closed : m.closeCalls ≤ 1
  left : m.exitCodes.length ≤ 1
  code : ∀ r ∈ m.runs, r.main.pending = none → m.exitCodes = [if r.clean deps then 0 else 1]
  bounded : (history.filter fun x => x.1.progresses).length ≤ 39
  goesOn : ∀ r ∈ m.runs, r.main.pending ≠ none →
    ∃ event, event.progresses = true ∧ calm m event = true ∧ (m.next deps event).isSome = true

theorem GoodRun.ne_throw (h : GoodRun deps r) (err : Thrown) : r.main ≠ .throw err := by
  intro ht
  have hd := h.main
  rw [ht] at hd
  exact hd

theorem exits_of_due {s : Seen} (hd : Due deps s c) : s.exits = [] := by
  cases c <;> first | exact hd.1 | exact hd.elim

theorem GoodRun.exitCodes_le (h : GoodRun deps r) : r.exitCodes.length ≤ 1 := by
  have hd := h.main
  unfold Run.exitCodes
  cases hm : r.main with
  | throw err => exact absurd hm (h.ne_throw err)
  | pure u =>
    rw [hm] at hd
    obtain ⟨-, failed, -, hex⟩ := hd
    simp [hex, Interaction.pending]
  | call c k =>
    rw [hm] at hd
    rw [exits_of_due hd.1]
    split <;> simp

theorem GoodRun.closeCalls_le (h : GoodRun deps r) : r.closeCalls ≤ 1 := by
  have hm : Shutdown.closeCalls r.main r.answers = 0 := by
    have hd := h.main
    simp only [Shutdown.closeCalls, h.mainCloses]
    cases hm : r.main with
    | throw err => rfl
    | pure u => rfl
    | call c k =>
      rw [hm] at hd
      cases c <;> first | rfl | exact hd.1.elim
  unfold Run.closeCalls
  rw [hm]
  cases hcl : r.closer with
  | none => simp
  | some closer =>
    have hc := h.closes closer hcl
    simp only [Shutdown.closeCalls, Nat.zero_add]
    cases hp : closer.program with
    | throw err =>
      rw [hp] at hc
      exact Nat.le_of_eq hc
    | pure u =>
      rw [hp] at hc
      exact Nat.le_of_eq hc
    | call c k =>
      rw [hp] at hc
      rcases hc.1.1 with hz | ⟨ho, hot⟩
      · simp only [hz, Interaction.pending]
        split <;> simp
      · simp only [ho, Interaction.pending]
        split
        · next signal heq => exact absurd (Option.some.inj heq) (hot signal)
        · exact Nat.le_refl _

theorem GoodRun.exitCodes_eq (h : GoodRun deps r) (hen : r.main.pending = none) :
    r.exitCodes = [if r.clean deps then 0 else 1] := by
  have hd := h.main
  cases hm : r.main with
  | throw err => exact absurd hm (h.ne_throw err)
  | call c k =>
    rw [hm] at hen
    cases hen
  | pure u =>
    rw [hm] at hd
    obtain ⟨hv, failed, hre, hex⟩ := hd
    have hcl : failed = !r.clean deps := by
      rw [h.read hre]
      obtain ⟨timedOut, hr⟩ := Option.ne_none_iff_exists'.mp hv.raced
      obtain ⟨flushed, hf⟩ := Option.ne_none_iff_exists'.mp hv.flushed
      have hma : (seen r.answers).marked =
          (timedOut || (seen r.answers).hookFailed == some true || !flushed) := by
        have := hv.marked
        rw [hr, hf] at this
        rw [Bool.eq_iff_iff, this]
        simp [or_assoc]
      have hh : (!deps.hookFailed || (seen r.answers).hookFailed == some false) =
          !((seen r.answers).hookFailed == some true) := by
        rw [← hv.hooks]
        cases (seen r.answers).hookFailed with
        | none => rfl
        | some ho => cases ho <;> rfl
      unfold Run.clean
      rw [hh, hr, hf, hma]
      cases timedOut with
      | true => simp
      | false =>
        -- the close has ended, and has marked its failure
        obtain ⟨ht, hclo⟩ := h.raced hr
        obtain ⟨closer, u', hs, hp⟩ := hclo rfl
        have hse := h.settles ht closer hs
        rw [hp] at hse
        have hc : r.closerSeen.marked = !r.closerSeen.resolved := by
          rw [closerSeen_eq hs]
          exact hse
        rw [hc]
        cases flushed <;> cases r.closerSeen.resolved <;>
          cases (seen r.answers).hookFailed == some true <;> rfl
    unfold Run.exitCodes
    rw [hm, hex, hcl]
    cases r.clean deps <;> rfl

theorem GoodRun.steps_le (h : GoodRun deps r) : r.steps ≤ 39 := by
  obtain ⟨n, -, hl⟩ := h.bound
  have ht : r.timedOut.toNat ≤ 1 := Bool.toNat_le _
  unfold Run.steps
  cases hc : r.closer with
  | none =>
    dsimp only
    omega
  | some closer =>
    obtain ⟨n', -, hl'⟩ := h.closeBound closer hc
    dsimp only
    omega

/-! ### There is a step to take -/

instance (c : Call) : Inhabited c.Result :=
  match c with
  | .now => ⟨(0 : Int)⟩
  | .race => ⟨false⟩
  | .openConnections => ⟨(0 : Int)⟩
  | .drainStats => ⟨(⟨0, 0⟩ : DrainStats)⟩
  | .hookFailed => ⟨false⟩
  | .getFailed => ⟨false⟩
  | .listenerClosed => ⟨false⟩
  | .log _ | .beginDrain | .delay _ | .beginClosing | .startReaper | .startClose | .startDeadline _
  | .recordForcedConnections _ | .forceCloseConnections | .setFailed | .stopTelemetry
  | .telemetryStopped | .exit _ | .close _ | .closed | .reapIdleConnections => ⟨()⟩

theorem reported_ok (c : Call) (a : c.Result) : reported c (.ok a) = true := by
  cases c with
  | log line => cases line <;> rfl
  | _ => rfl

theorem permits_ok (hi : c.internal = false) (a : c.Result) :
    c.permits (.ok a) = true := by
  simp [Call.permits, hi, Except.isOk, Except.toBool]

def Steps (deps : ShutdownDeps) (m : Machine) : Prop :=
  ∃ event, event.progresses = true ∧ calm m event = true ∧ (m.next deps event).isSome = true

theorem onMain_isSome {k : Except Thrown c.Result → Task Unit} (hm : r.main = .call c k)
    (hi : c.internal = false) (a : c.Result) (skipDelay : Option ℕ) :
    (Machine.onMain ⟨[r], skipDelay, 0, false⟩ 0 c (.ok a)).isSome = true := by
  have ha : r.answerMain c (.ok a) = some (r.answer c (.ok a) (k (.ok a))) := by
    simp [Run.answerMain, hm, permits_ok hi]
  simp [Machine.onMain, ha]

theorem steps_advance (hp : r.main.pending = some c)
    (ha : r.advance.isSome = true) : Steps deps ⟨[r], r.delaying, 0, false⟩ := by
  obtain ⟨r', ha⟩ := Option.isSome_iff_exists.mp ha
  exact ⟨.advance 0, rfl, rfl, by simp [Machine.next, Machine.onAdvance, hp, ha]⟩

theorem GoodRun.steps_closer (h : GoodRun deps r) {k : Except Thrown c.Result → Task Unit}
    {answers : List Exchange} (hc : r.closer = some ⟨.call c k, answers⟩) :
    Steps deps ⟨[r], r.delaying, 0, false⟩ := by
  by_cases hi : c.internal = true
  · obtain rfl := (h.closes _ hc).1.2 hi
    exact ⟨.advanceCloser 0, rfl, rfl, by simp [Machine.next, Machine.onRun, Run.advanceCloser, hc]⟩
  · rw [Bool.not_eq_true] at hi
    refine ⟨.closer 0 c (.ok default), rfl, ?_, ?_⟩
    · simp [calm, reported_ok]
    · simp [Machine.next, Machine.onRun, Run.answerCloser, hc, permits_ok hi]

theorem GoodRun.steps_of_pending (h : GoodRun deps r) (hp : r.main.pending ≠ none) :
    Steps deps ⟨[r], r.delaying, 0, false⟩ := by
  cases hm : r.main with
  | pure u =>
    rw [hm] at hp
    exact absurd rfl hp
  | throw err => exact absurd hm (h.ne_throw err)
  | call c k =>
    have hs : r.main.pending = some c := by rw [hm]; rfl
    by_cases hi : c.internal = true
    · cases c with
      | startReaper => exact steps_advance hs (by simp [Run.advance, hm])
      | startDeadline timeoutMs => exact steps_advance hs (by simp [Run.advance, hm])
      | setFailed => exact steps_advance hs (by simp [Run.advance, hm])
      | getFailed => exact steps_advance hs (by simp [Run.advance, hm])
      | startClose =>
        cases hc : r.closer with
        | none => exact steps_advance hs (by simp [Run.advance, hm, hc])
        | some closer =>
          obtain ⟨program, answers⟩ := closer
          cases program with
          | call c k => exact h.steps_closer hc
          | pure u =>
            exact steps_advance hs
              (by simp [Run.advance, hm, hc, suspended, Interaction.pending])
          | throw err =>
            exact steps_advance hs
              (by simp [Run.advance, hm, hc, suspended, Interaction.pending])
      | race =>
        have hd := h.main
        rw [hm] at hd
        obtain ⟨⟨program, answers⟩, hc⟩ :=
          Option.isSome_iff_exists.mp (h.started hd.1.2.2)
        cases program with
        | call c k => exact h.steps_closer hc
        | pure u =>
          refine steps_advance hs ?_
          cases ht : r.timedOut <;> simp [Run.advance, hm, hc, ht]
        | throw err =>
          refine steps_advance hs ?_
          cases ht : r.timedOut <;> simp [Run.advance, hm, hc, ht]
      | _ => cases hi
    · refine ⟨.main 0 c (.ok default), rfl, reported_ok c _, ?_⟩
      exact onMain_isSome hm (by simpa using hi) default r.delaying

theorem Good.steps_of_pending (h : Good deps m) (hme : r ∈ m.runs) (hp : r.main.pending ≠ none) :
    Steps deps m := by
  cases h with
  | idle => cases hme
  | @running r₀ signals hr hl =>
    obtain rfl := List.mem_singleton.mp hme
    rcases hl with rfl | ⟨rfl, hd⟩
    · exact hr.steps_of_pending hp
    · -- the logger of a further signal returns, and the delay is skipped
      refine ⟨.signalLogged (.ok ()), rfl, rfl, ?_⟩
      simp only [Machine.next, Machine.onSignalLogged, hd, Machine.finishDelay,
        List.getElem?_cons_zero, Option.bind_eq_bind, Option.bind_some]
      unfold Run.delaying at hd
      cases hm : r.main with
      | pure u =>
        rw [hm] at hp
        exact absurd rfl hp
      | throw err => exact absurd hm (hr.ne_throw err)
      | call c k =>
        rw [hm] at hd
        cases c with
        | delay delayMs => exact onMain_isSome hm rfl () (some 0)
        | _ => cases hd

/-- A history that was calm has led to a calm process, which has come as far as its steps. -/
def Tracks (deps : ShutdownDeps) (history : List (Event × Machine)) (m : Machine) : Prop :=
  (∀ x ∈ history, calm x.2 x.1 = true) →
    Good deps m ∧ (history.filter fun x => x.1.progresses).length = m.steps

theorem tracks_of_run
    (hr : TracedRun (fun event m m' => Machine.next deps m event = some m') .initial history m) :
    Tracks deps history m := by
  refine TracedRun.invariant ?_ ?_ hr
  · exact fun _ => ⟨.idle, rfl⟩
  · intro history m event m' _ ih hn hc
    obtain ⟨hno, hb⟩ := List.forall_mem_cons.mp hc
    obtain ⟨hg, hcn⟩ := ih hb
    obtain ⟨hg', hs⟩ := hg.next hno hn
    refine ⟨hg', ?_⟩
    rw [hs, ← hcn, List.filter_cons]
    cases event.progresses <;> simp

/-- **Shutdown ends** in every run of a calm process. -/
theorem shutdown_ends
    (hrun : TracedRun (fun event m m' => Machine.next deps m event = some m') .initial history m)
    (hcalm : ∀ x ∈ history, calm x.2 x.1 = true) : Ends deps history m := by
  obtain ⟨hgo, hc⟩ := tracks_of_run hrun hcalm
  cases hgo with
  | idle =>
    refine ⟨⟨rfl, nofun⟩, Nat.zero_le 1, Nat.zero_le 1, nofun, ?_, nofun⟩
    rw [hc]
    exact Nat.zero_le 39
  | @running r signals hg hl =>
    have hgo : Good deps ⟨[r], r.delaying, signals, false⟩ := .running hg hl
    refine ⟨⟨rfl, fun r' hm err => ?_⟩, ?_, ?_, fun r' hm hen => ?_, ?_, fun r' hm => ?_⟩
    · obtain rfl := List.mem_singleton.mp hm
      exact hg.ne_throw err
    · simpa [Machine.closeCalls] using hg.closeCalls_le
    · simpa [Machine.exitCodes] using hg.exitCodes_le
    · obtain rfl := List.mem_singleton.mp hm
      simpa [Machine.exitCodes] using hg.exitCodes_eq hen
    · rw [hc]
      simpa [Machine.steps] using hg.steps_le
    · exact hgo.steps_of_pending hm

def plainDeps : ShutdownDeps where
  forceCloseConnections := false
  hookFailed := false
  beginDrain := false
  listenerClosed := false
  reapIdleConnections := false
  openConnections := false
  recordForcedConnections := false
  drainStats := false
  beginClosing := false
  drainDelayMs := none
  timeoutMs := none

def closingEvents : List Event :=
  [.signal none, .main 0 .now (.ok (0 : Int)), .main 0 (.log (.received "shutdown")) (.ok ()), .advance 0,
    .closer 0 (.close none) (.ok ()), .advance 0, .advance 0]

/-- The race is over: the summary is logged, and telemetry is stopped. -/
def flushingEvents : List Event :=
  [.advance 0, .main 0 .now (.ok (5 : Int)),
    .main 0 (.log (.drainComplete 5 0 none none (some 0))) (.ok ()), .main 0 .stopTelemetry (.ok ())]

/-- Everything goes well, and a second signal comes. -/
def cleanEvents : List Event :=
  closingEvents ++ [.signal none, .closer 0 .closed (.ok ())] ++ flushingEvents ++
    [.main 0 .telemetryStopped (.ok ()), .advance 0, .main 0 (.exit 0) (.ok ())]

theorem shutdown_ends_clean :
    ∃ history m,
      TracedRun (fun event m m' => Machine.next plainDeps m event = some m') .initial history m ∧
        (∀ x ∈ history, calm x.2 x.1 = true) ∧ Ends plainDeps history m ∧ m.exitCodes = [0] := by
  have hf : (replay (Machine.next plainDeps) cleanEvents [] .initial).any
      (fun x => x.1.all (fun y => calm y.2 y.1) && x.2.exitCodes == [0]) = true := rfl
  obtain ⟨⟨history, m⟩, hre, hch⟩ := (Option.any_eq_true _ _).mp hf
  obtain ⟨hc, hex⟩ := Bool.and_eq_true_iff.mp hch
  have hr := TracedRun.start.replay hre
  have hc' : ∀ x ∈ history, calm x.2 x.1 = true := List.all_eq_true.mp hc
  exact ⟨history, m, hr, hc', shutdown_ends hr hc', beq_iff_eq.mp hex⟩

def Run.rejected (r : Run) : Bool :=
  match r.main with
  | .throw _ => true
  | _ => false

def closeUnreported : List Event :=
  closingEvents ++ [.closer 0 .closed (.error (.value "pool")), .advanceCloser 0,
    .closer 0 (.log (.closeFailed "pool")) (.error (.value "logger")), .advance 0]

def flushUnreported : List Event :=
  closingEvents ++ [.closer 0 .closed (.ok ())] ++ flushingEvents ++
    [.main 0 .telemetryStopped (.error (.value "otlp")), .advance 0,
      .main 0 (.log (.telemetryFailed "otlp")) (.error (.value "logger"))]

/-- The handler is called again from within the first call of the logger. -/
def reentered : List Event :=
  [.signal none, .main 0 .now (.ok (0 : Int)), .signal none, .main 1 .now (.ok (0 : Int)),
    .main 1 (.log (.received "shutdown")) (.ok ()), .advance 1, .closer 1 (.close none) (.ok ()),
    .advance 1, .advance 1, .main 0 (.log (.received "shutdown")) (.ok ()), .advance 0,
    .closer 0 (.close none) (.ok ())]

/-- The promise rejects and the process is not left, if the error of the close or of the flush cannot be
logged; and a handler that is entered again closes the application twice. -/
theorem shutdown_fails :
    (replay (Machine.next plainDeps) closeUnreported [] .initial).any
        (fun x => x.2.runs.all Run.rejected && x.2.exitCodes == []) = true ∧
      (replay (Machine.next plainDeps) flushUnreported [] .initial).any
        (fun x => x.2.runs.all Run.rejected && x.2.exitCodes == []) = true ∧
      (replay (Machine.next plainDeps) reentered [] .initial).any
        (fun x => x.2.closeCalls == 2) = true := ⟨rfl, rfl, rfl⟩

end Good

end AcdpControlPlane.Shutdown
