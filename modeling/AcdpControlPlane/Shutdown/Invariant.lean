import AcdpControlPlane.Shutdown.Spec

/-!
# The run of a shutdown

A run is the main program, the close, the deadline and the reaper, with the variables they share. If the
errors of the flush, and of a close before the deadline, are reported, each of its events keeps the
specifications of the programs and the sense of the variables: a failure is marked by the program it
happened in, the race has ended as it was seen to end, and what is read at the end is what was marked.
-/

namespace AcdpControlPlane.Shutdown

open Interaction (Bounded Meets)

/-! ## What is said of a run -/

/-- What `closePhase` has been answered. -/
def Run.closerSeen (r : Run) : Seen :=
  match r.closer with
  | none => {}
  | some closer => seen closer.answers

/-- The close resolved before the deadline, the hooks did not fail and telemetry stopped without error. -/
def Run.clean (deps : ShutdownDeps) (r : Run) : Bool :=
  (seen r.answers).timedOut == some false && r.closerSeen.resolved &&
    (!deps.hookFailed || (seen r.answers).hookFailed == some false) &&
    (seen r.answers).flushed == some true

/-- The codes that `exit` has been called with. -/
def Run.exitCodes (r : Run) : List Int :=
  (seen r.answers).exits ++
    match r.main.pending with
    | some (.exit code) => [code]
    | _ => []

/-- How often a program has called `close`. -/
def closeCalls (p : Task Unit) (answers : List Exchange) : ℕ :=
  (seen answers).closes +
    match p.pending with
    | some (.close _) => 1
    | _ => 0

def Run.closeCalls (r : Run) : ℕ :=
  Shutdown.closeCalls r.main r.answers +
    match r.closer with
    | none => 0
    | some closer => Shutdown.closeCalls closer.program closer.answers

def Run.steps (r : Run) : ℕ :=
  r.answers.length +
    (match r.closer with
      | none => 0
      | some closer => closer.answers.length + 1) +
    r.timedOut.toNat

/-! ## One run -/

section GoodRun

variable {deps : ShutdownDeps} {r r' : Run}

structure GoodRun (deps : ShutdownDeps) (r : Run) : Prop where
  main : Does deps (fun _ => Left deps) (fun _ _ => False) r.main (seen r.answers)
  bound : ∃ n, r.main.Bounded n ∧ r.answers.length + n ≤ 33
  returned : suspended r.main = true → r.returned = true
  started : (seen r.answers).started = true → r.closer.isSome = true
  mainCloses : (seen r.answers).closes = 0
  closes : ∀ closer ∈ r.closer, Meets observe (fun _ _ _ => True) CloseDue (fun _ s => s.closes = 1)
    (fun _ s => s.closes = 1) closer.program (seen closer.answers)
  closeBound : ∀ closer ∈ r.closer, ∃ n, closer.program.Bounded n ∧ closer.answers.length + n ≤ 4
  settles : r.timedOut = false → ∀ closer ∈ r.closer, Settles closer.program (seen closer.answers)
  failed : r.failed = ((seen r.answers).marked || r.closerSeen.marked)
  raced : ∀ {timedOut}, (seen r.answers).timedOut = some timedOut → r.timedOut = timedOut ∧
    (timedOut = false → ∃ closer u, r.closer = some closer ∧ closer.program = .pure u)
  verdict : (seen r.answers).read ≠ none → Verdict deps (seen r.answers)
  read : ∀ {failed}, (seen r.answers).read = some failed →
    failed = ((seen r.answers).marked || r.closerSeen.marked)
  harmless : ∀ p ∈ r.tick, Harmless p

theorem goodRun_start (deps : ShutdownDeps) (signal : Option String) :
    GoodRun deps (Run.start deps signal) where
  main := meets_run deps signal
  bound := ⟨33, bounded_run signal, by simp [Run.start]⟩
  returned h := nomatch h
  started h := nomatch h
  mainCloses := rfl
  closes _ h := nomatch h
  closeBound _ h := nomatch h
  settles _ _ h := nomatch h
  failed := rfl
  raced h := nomatch h
  verdict h := absurd rfl h
  read h := nomatch h
  harmless _ h := nomatch h

/-! ### What an answer changes -/

section Observe

variable {s : Seen} {c : Call} {answer : Except Thrown c.Result}

theorem started_observe (hc : c ≠ .startClose) : (observe s c answer).started = s.started := by
  cases c <;> cases answer <;> first | rfl | exact absurd rfl hc

theorem timedOut_observe (hc : c ≠ .race) : (observe s c answer).timedOut = s.timedOut := by
  cases c <;> cases answer <;> first | rfl | exact absurd rfl hc

theorem marked_observe (hc : c ≠ .setFailed) : (observe s c answer).marked = s.marked := by
  cases c <;> cases answer <;> first | rfl | exact absurd rfl hc

theorem closes_observe (hd : Due deps s c) : (observe s c answer).closes = s.closes := by
  cases c <;> cases answer <;> first | rfl | exact hd.elim

theorem read_observe (hc : c ≠ .getFailed) : (observe s c answer).read = s.read := by
  cases c <;> cases answer <;> first | rfl | exact absurd rfl hc

theorem verdict_observe (hd : Due deps s c) (hv : s.read ≠ none → Verdict deps s)
    (hr : (observe s c answer).read ≠ none) : Verdict deps (observe s c answer) := by
  by_cases hex : ∃ code, c = .exit code
  · obtain ⟨code, rfl⟩ := hex
    have h := hv hr
    exact ⟨h.raced, h.hooks, h.flushed, h.marked⟩
  · by_cases hg : c = .getFailed
    · subst hg
      have h := hd.2.2
      cases answer <;> exact ⟨h.raced, h.hooks, h.flushed, h.marked⟩
    · have hn : s.read = none := by
        cases c <;> first | exact hd.2 | exact hd.2.1 | exact hd.elim | exact absurd rfl hg |
          exact absurd ⟨_, rfl⟩ hex
      exact absurd ((read_observe hg).trans hn) hr

/-! ### The main program is answered -/

variable {k : Except Thrown c.Result → Task Unit}

theorem GoodRun.answered (h : GoodRun deps r) (hmain : r.main = .call c k)
    (halw : Allowed (seen r.answers) c answer) {failed : Bool} (armed reaping : Bool)
    (hstar : (observe (seen r.answers) c answer).started = true → r.closer.isSome = true)
    (hrac : ∀ {timedOut}, (observe (seen r.answers) c answer).timedOut = some timedOut →
      r.timedOut = timedOut ∧
        (timedOut = false → ∃ closer u, r.closer = some closer ∧ closer.program = .pure u))
    (hfail : failed = ((observe (seen r.answers) c answer).marked || r.closerSeen.marked))
    (hread : ∀ {value}, (observe (seen r.answers) c answer).read = some value →
      value = ((observe (seen r.answers) c answer).marked || r.closerSeen.marked)) :
    GoodRun deps { r.answer c answer (k answer) with
      failed := failed, armed := armed, reaping := reaping } := by
  have hdoes := h.main
  rw [hmain] at hdoes
  have hdue : Due deps (seen r.answers) c := hdoes.1
  obtain ⟨n, hbd, hlen⟩ := h.bound
  rw [hmain] at hbd
  have hseen : seen (r.answers ++ [⟨c, answer⟩]) = observe (seen r.answers) c answer := seen_snoc ..
  constructor
  case main =>
    simp only [Run.answer, hseen]
    exact hdoes.2 answer halw
  case bound =>
    cases n with
    | zero => exact hbd.elim
    | succ n =>
      refine ⟨n, hbd answer, ?_⟩
      simp only [Run.answer, List.length_append, List.length_singleton]
      omega
  case returned =>
    intro hsusp
    simp only [Run.answer] at hsusp ⊢
    rw [hsusp, Bool.or_true]
  case started =>
    simp only [Run.answer, hseen]
    exact hstar
  case mainCloses =>
    simp only [Run.answer, hseen]
    rw [closes_observe hdue, h.mainCloses]
  case closes => exact h.closes
  case closeBound => exact h.closeBound
  case settles => exact h.settles
  case failed =>
    simp only [Run.answer, hseen]
    exact hfail
  case raced =>
    simp only [Run.answer, hseen]
    exact hrac
  case verdict =>
    simp only [Run.answer, hseen]
    exact verdict_observe hdue h.verdict
  case read =>
    simp only [Run.answer, hseen]
    exact hread
  case harmless => exact h.harmless

theorem GoodRun.answeredPlain (h : GoodRun deps r) (hm : r.main = .call c k)
    (ha : Allowed (seen r.answers) c answer) (armed reaping : Bool) (hst : c ≠ .startClose)
    (hr : c ≠ .race) (hs : c ≠ .setFailed) (hg : c ≠ .getFailed) :
    GoodRun deps { r.answer c answer (k answer) with armed := armed, reaping := reaping } := by
  refine h.answered hm ha armed reaping ?_ ?_ ?_ ?_
  · rw [started_observe hst]
    exact h.started
  · rw [timedOut_observe hr]
    exact h.raced
  · rw [marked_observe hs]
    exact h.failed
  · rw [read_observe hg, marked_observe hs]
    exact h.read

theorem steps_answer (r : Run) (c : Call) (answer : Except Thrown c.Result) (rest : Task Unit) :
    (r.answer c answer rest).steps = r.steps + 1 := by
  simp only [Run.steps, Run.answer, List.length_append, List.length_singleton]
  omega

theorem GoodRun.answerMain (h : GoodRun deps r) (hr : reported c answer = true)
    (ha : r.answerMain c answer = some r') :
    GoodRun deps r' ∧ r'.steps = r.steps + 1 ∧ r.main.pending = some c := by
  unfold Run.answerMain at ha
  split at ha
  · next c' k hm =>
    split at ha
    · next hc =>
      subst hc
      split at ha
      · next hp =>
        cases ha
        obtain ⟨hi, ht⟩ := Bool.and_eq_true_iff.mp hp
        rw [Bool.not_eq_true'] at hi
        have hn : ∀ {c''}, Call.internal c'' = true → c' ≠ c'' := by
          rintro c'' hc'' rfl
          rw [hi] at hc''
          cases hc''
        have hal : Allowed (seen r.answers) c' answer := by
          refine ⟨hr, fun ho => ?_⟩
          rcases ho with ho | ho
          · rw [hi] at ho
            cases ho
          · simpa [ho] using ht
        refine ⟨?_, steps_answer .., by rw [hm]; rfl⟩
        exact h.answeredPlain hm hal r.armed r.reaping (hn rfl) (hn rfl) (hn rfl) (hn rfl)
      · cases ha
    · cases ha
  · cases ha

theorem GoodRun.advance (h : GoodRun deps r) (ha : r.advance = some r') :
    GoodRun deps r' ∧ r'.steps = r.steps + 1 := by
  unfold Run.advance at ha
  split at ha
  · next k hm =>
    cases ha
    refine ⟨?_, steps_answer r _ _ (k (.ok ()))⟩
    exact h.answeredPlain hm ⟨rfl, fun _ => rfl⟩ r.armed true (by simp) (by simp) (by simp) (by simp)
  · next k hm =>
    split at ha
    · next hc =>
      -- `closePhase` is called
      cases ha
      have hcl : r.closerSeen = {} := by
        unfold Run.closerSeen
        rw [hc]
      refine ⟨⟨h.main, h.bound, h.returned, fun _ => rfl, h.mainCloses, ?_, ?_, ?_, ?_, ?_, h.verdict, ?_,
        h.harmless⟩, ?_⟩
      · rintro closer ⟨⟩
        exact closes_closePhase r.signal
      · rintro closer ⟨⟩
        exact ⟨4, bounded_closePhase r.signal, by simp⟩
      · rintro - closer ⟨⟩
        exact meets_closePhase r.signal
      · have := h.failed
        rw [hcl] at this
        exact this
      · intro timedOut hra
        refine ⟨(h.raced hra).1, fun hf => ?_⟩
        obtain ⟨closer, -, hs, -⟩ := (h.raced hra).2 hf
        rw [hc] at hs
        cases hs
      · intro failed hr
        have := h.read hr
        rw [hcl] at this
        exact this
      · simp [Run.steps, hc]
        omega
    · next closer hc =>
      split at ha
      · cases ha
        refine ⟨?_, steps_answer ..⟩
        refine h.answered hm ⟨rfl, fun _ => rfl⟩ r.armed r.reaping ?_ ?_ ?_ ?_
        · intro _
          rw [hc]
          rfl
        · exact h.raced
        · exact h.failed
        · exact h.read
      · cases ha
  · next timeoutMs k hm =>
    cases ha
    refine ⟨?_, steps_answer r _ _ (k (.ok ()))⟩
    exact h.answeredPlain hm ⟨rfl, fun _ => rfl⟩ true r.reaping (by simp) (by simp) (by simp) (by simp)
  · next k hm =>
    split at ha
    · next ht =>
      cases ha
      refine ⟨?_, steps_answer r _ _ (k (.ok true))⟩
      refine h.answered hm ⟨rfl, fun _ => rfl⟩ false false h.started ?_ h.failed h.read
      rintro timedOut ⟨⟩
      exact ⟨ht, fun hf => nomatch hf⟩
    · next ht =>
      rw [Bool.not_eq_true] at ht
      split at ha
      · next u answers hc =>
        cases ha
        refine ⟨?_, steps_answer r _ _ (k (.ok false))⟩
        refine h.answered hm ⟨rfl, fun _ => rfl⟩ false false h.started ?_ h.failed h.read
        rintro timedOut ⟨⟩
        exact ⟨ht, fun _ => ⟨_, u, hc, rfl⟩⟩
      · next err answers hc =>
        -- a close whose errors are reported does not reject
        exact (h.settles ht ⟨.throw err, answers⟩ hc).elim
      · cases ha
  · next k hm =>
    cases ha
    refine ⟨?_, steps_answer r _ _ (k (.ok ()))⟩
    refine h.answered hm ⟨rfl, fun _ => rfl⟩ r.armed r.reaping h.started h.raced rfl ?_
    intro value hr
    have hd := h.main
    rw [hm] at hd
    have hn : (seen r.answers).read = none := hd.1.2
    have hs : (seen r.answers).read = some value := hr
    rw [hn] at hs
    cases hs
  · next k hm =>
    cases ha
    refine ⟨?_, steps_answer ..⟩
    refine h.answered hm ⟨rfl, fun _ => rfl⟩ r.armed r.reaping h.started h.raced h.failed ?_
    rintro value ⟨⟩
    exact h.failed
  · cases ha

/-! ### The close, the deadline and the reaper -/

theorem GoodRun.timedOut_of_raced {closer : Closer} (h : GoodRun deps r) (hc : r.closer = some closer)
    (hp : closer.program.pending ≠ none) {timedOut : Bool}
    (hr : (seen r.answers).timedOut = some timedOut) : timedOut = true ∧ r.timedOut = true := by
  obtain ⟨hs, hen⟩ := h.raced hr
  cases timedOut with
  | true => exact ⟨rfl, hs⟩
  | false =>
    obtain ⟨closer', u, hc', hpu⟩ := hen rfl
    rw [hc, Option.some.injEq] at hc'
    subst hc'
    rw [hpu] at hp
    exact absurd rfl hp

variable {answers : List Exchange}

theorem GoodRun.closerAnswered (h : GoodRun deps r) (hc : r.closer = some ⟨.call c k, answers⟩)
    (ha : r.timedOut = false → Allowed (seen answers) c answer) {failed : Bool}
    (hf : failed = ((seen r.answers).marked || (observe (seen answers) c answer).marked))
    (hr : ∀ {value}, (seen r.answers).read = some value →
      value = ((seen r.answers).marked || (observe (seen answers) c answer).marked)) :
    GoodRun deps { r with
      closer := some ⟨k answer, answers ++ [⟨c, answer⟩]⟩, failed := failed } := by
  have hm : (⟨.call c k, answers⟩ : Closer) ∈ r.closer := hc
  have hs : seen (answers ++ [⟨c, answer⟩]) = observe (seen answers) c answer := seen_snoc ..
  refine ⟨h.main, h.bound, h.returned, fun _ => rfl, h.mainCloses, ?_, ?_, ?_, ?_, ?_, h.verdict, ?_,
    h.harmless⟩
  · rintro closer ⟨⟩
    rw [hs]
    exact (h.closes _ hm).2 answer trivial
  · rintro closer ⟨⟩
    obtain ⟨n, hb, hl⟩ := h.closeBound _ hm
    cases n with
    | zero => exact hb.elim
    | succ n =>
      refine ⟨n, hb answer, ?_⟩
      simp only [List.length_append, List.length_singleton] at hl ⊢
      omega
  · rintro ht closer ⟨⟩
    rw [hs]
    exact (h.settles ht _ hm).2 answer (ha ht)
  · simp only [Run.closerSeen, hs]
    exact hf
  · intro timedOut hra
    obtain ⟨rfl, hsa⟩ := h.timedOut_of_raced hc (by simp [Interaction.pending]) hra
    exact ⟨hsa, fun hfl => nomatch hfl⟩
  · simp only [Run.closerSeen, hs]
    exact hr

end Observe

theorem closerSeen_eq {closer : Closer} (hc : r.closer = some closer) :
    r.closerSeen = seen closer.answers := by
  unfold Run.closerSeen
  rw [hc]

theorem GoodRun.answerCloser {c : Call} {answer : Except Thrown c.Result} (h : GoodRun deps r)
    (hr : reported c answer = true ∨ r.timedOut = true) (ha : r.answerCloser c answer = some r') :
    GoodRun deps r' ∧ r'.steps = r.steps + 1 ∧ r'.main = r.main := by
  unfold Run.answerCloser at ha
  split at ha
  · next c' k answers hcl =>
    split at ha
    · next hc =>
      subst hc
      split at ha
      · next hp =>
        cases ha
        obtain ⟨hi, htot⟩ := Bool.and_eq_true_iff.mp hp
        rw [Bool.not_eq_true'] at hi
        have hs : c' ≠ .setFailed := by
          rintro rfl
          cases hi
        have hm := closerSeen_eq hcl
        refine ⟨?_, ?_, rfl⟩
        · refine h.closerAnswered hcl (fun ht => ?_) ?_ ?_
          · rcases hr with hr | ht'
            · refine ⟨hr, fun ho => ?_⟩
              rcases ho with ho | ho
              · rw [hi] at ho
                cases ho
              · simpa [ho] using htot
            · rw [ht] at ht'
              cases ht'
          · rw [marked_observe hs, h.failed, hm]
          · intro value hre
            rw [marked_observe hs, h.read hre, hm]
        · simp [Run.steps, hcl]
          omega
      · cases ha
    · cases ha
  · cases ha

theorem GoodRun.advanceCloser (h : GoodRun deps r) (ha : r.advanceCloser = some r') :
    GoodRun deps r' ∧ r'.steps = r.steps + 1 ∧ r'.main = r.main := by
  unfold Run.advanceCloser at ha
  split at ha
  · next k answers hc =>
    cases ha
    refine ⟨?_, ?_, rfl⟩
    · refine h.closerAnswered hc (fun _ => ⟨rfl, fun _ => rfl⟩) (Bool.or_true _).symm ?_
      -- the variable is read after the race, which the deadline has ended; that was marked
      intro value hr
      have hv := h.verdict (by rw [hr]; simp)
      obtain ⟨timedOut, hra⟩ := Option.ne_none_iff_exists'.mp hv.raced
      obtain ⟨rfl, -⟩ := h.timedOut_of_raced hc (by simp [Interaction.pending]) hra
      rw [h.read hr, hv.marked.mpr (Or.inl hra)]
      rfl
    · simp [Run.steps, hc]
      omega
  · cases ha

theorem GoodRun.deadline (h : GoodRun deps r) (hd : r.deadline = some r') :
    GoodRun deps r' ∧ r'.steps = r.steps + 1 ∧ r'.main = r.main := by
  unfold Run.deadline at hd
  split at hd
  · next c k answers hc =>
    split at hd
    · next ha =>
      cases hd
      have ht : r.timedOut = false := by simpa using (Bool.and_eq_true_iff.mp ha).2
      refine ⟨⟨h.main, h.bound, h.returned, h.started, h.mainCloses, h.closes, h.closeBound, ?_, h.failed,
        ?_, h.verdict, h.read, h.harmless⟩, ?_, rfl⟩
      · intro hf
        cases hf
      · intro timedOut hr
        obtain ⟨rfl, -⟩ := h.timedOut_of_raced hc (by simp [Interaction.pending]) hr
        exact ⟨rfl, fun hf => nomatch hf⟩
      · simp [Run.steps, ht]
    · cases hd
  · cases hd

theorem GoodRun.tickTo (h : GoodRun deps r) {p : Task Bool} (hp : Harmless p) :
    GoodRun deps (r.tickTo p).1 ∧ (r.tickTo p).2 = false ∧ (r.tickTo p).1.steps = r.steps ∧
      (r.tickTo p).1.main = r.main := by
  cases p with
  | throw e => exact hp.elim
  | pure logged =>
    refine ⟨?_, rfl, rfl, rfl⟩
    exact ⟨h.main, h.bound, h.returned, h.started, h.mainCloses, h.closes, h.closeBound, h.settles, h.failed,
      h.raced, h.verdict, h.read, fun _ hm => nomatch hm⟩
  | call c k =>
    refine ⟨?_, rfl, rfl, rfl⟩
    refine ⟨h.main, h.bound, h.returned, h.started, h.mainCloses, h.closes, h.closeBound, h.settles, h.failed,
      h.raced, h.verdict, h.read, ?_⟩
    rintro p ⟨⟩
    exact hp

theorem harmless_answerTick {c : Call} {answer : Except Thrown c.Result} {p : Task Bool}
    (h : GoodRun deps r) (ht : r.answerTick c answer = some p) : Harmless p := by
  unfold Run.answerTick at ht
  split at ht
  · next c' k hs =>
    split at ht
    · next hc =>
      subst hc
      split at ht
      · cases ht
        exact (h.harmless _ hs).2 answer trivial
      · cases ht
    · cases ht
  · cases ht

end GoodRun

end AcdpControlPlane.Shutdown
