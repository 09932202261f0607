import AcdpControlPlane.Shutdown.Handler

/-!
# What the programs of a shutdown do

A monitor watches the answers that a program is given: how the race ended, what the hooks and the flush
reported, whether the shutdown was marked as failed and which code it left with. The main program, started
in any environment that lets errors be reported, leaves once and with the code of what was reported. The
program of the close marks the shutdown as failed unless the close resolves.
-/

namespace AcdpControlPlane.Shutdown

/-! ## The monitor -/

structure Seen where
  started : Bool := false
  timedOut : Option Bool := none
  hookFailed : Option Bool := none
  flushed : Option Bool := none
  marked : Bool := false
  read : Option Bool := none
  exits : List Int := []
  closes : ℕ := 0
  resolved : Bool := false
deriving DecidableEq, Repr

def observe (s : Seen) : (c : Call) → Except Thrown c.Result → Seen
  | .startClose, _ => { s with started := true }
  | .race, .ok timedOut => { s with timedOut := some timedOut }
  | .hookFailed, .ok failed => { s with hookFailed := some failed }
  | .hookFailed, .error _ => { s with hookFailed := some true }
  | .stopTelemetry, .error _ => { s with flushed := some false }
  | .telemetryStopped, .ok _ => { s with flushed := some true }
  | .telemetryStopped, .error _ => { s with flushed := some false }
  | .setFailed, _ => { s with marked := true }
  | .getFailed, .ok failed => { s with read := some failed }
  | .exit code, _ => { s with exits := s.exits ++ [code] }
  | .close _, _ => { s with closes := s.closes + 1 }
  | .closed, .ok _ => { s with resolved := true }
  | _, _ => s

def seen (answers : List Exchange) : Seen := answers.foldl (fun s x => observe s x.1 x.2) {}

@[simp] theorem seen_snoc (answers : List Exchange) (c : Call) (answer : Except Thrown c.Result) :
    seen (answers ++ [⟨c, answer⟩]) = observe (seen answers) c answer := by
  simp [seen]

/-- An error of the close or of the flush can be read, and the logger takes it. -/
def reported : (c : Call) → Except Thrown c.Result → Bool
  | .log (.closeFailed _), .error _ => false
  | .log (.telemetryFailed _), .error _ => false
  | .close _, .error .unreadable => false
  | .closed, .error .unreadable => false
  | .stopTelemetry, .error .unreadable => false
  | .telemetryStopped, .error .unreadable => false
  | _, _ => true

/-- The answers of an environment that lets errors be reported. Timers and variables do not throw. -/
def Allowed (_ : Seen) (c : Call) (answer : Except Thrown c.Result) : Prop :=
  reported c answer = true ∧ (c.internal = true ∨ c.total = true → answer.isOk = true)

/-! ## The main program -/

/-- All has been reported, and a failure has been marked if there was one. -/
structure Verdict (deps : ShutdownDeps) (s : Seen) : Prop where
  raced : s.timedOut ≠ none
  hooks : s.hookFailed.isSome = deps.hookFailed
  flushed : s.flushed ≠ none
  marked : s.marked = true ↔ s.timedOut = some true ∨ s.hookFailed = some true ∨ s.flushed = some false

def exitCode (failed : Bool) : Int := if failed then 1 else 0

/-- When the main program may make a call. -/
def Due (deps : ShutdownDeps) (s : Seen) : Call → Prop
  | .exit code => s.exits = [] ∧ Verdict deps s ∧ ∃ failed, s.read = some failed ∧ code = exitCode failed
  | .getFailed => s.exits = [] ∧ s.read = none ∧ Verdict deps s
  | .startClose => s.exits = [] ∧ s.read = none ∧ s.started = false
  | .race => s.exits = [] ∧ s.read = none ∧ s.started = true
  | .close _ => False
  | _ => s.exits = [] ∧ s.read = none

def Left (deps : ShutdownDeps) (s : Seen) : Prop :=
  Verdict deps s ∧ ∃ failed, s.read = some failed ∧ s.exits = [exitCode failed]

section Main

variable {deps : ShutdownDeps} {α β : Type}

/-- The main program and its parts are specified by this. -/
abbrev Does (deps : ShutdownDeps) (post : α → Seen → Prop) (fail : Thrown → Seen → Prop) (p : Task α)
    (s : Seen) : Prop :=
  Interaction.Meets observe Allowed (Due deps) post fail p s

def Call.quiet : Call → Bool
  | .now | .log _ | .beginDrain | .delay _ | .beginClosing | .startReaper | .startDeadline _
  | .openConnections | .recordForcedConnections _ | .forceCloseConnections | .drainStats => true
  | _ => false

/-- A part that the monitor takes no notice of, whether it returns or throws. -/
def Quiet (deps : ShutdownDeps) (p : Task α) : Prop :=
  ∀ s : Seen, s.exits = [] → s.read = none → Does deps (fun _ s' => s' = s) (fun _ s' => s' = s) p s

def Contained (deps : ShutdownDeps) (p : Task α) : Prop :=
  ∀ s : Seen, s.exits = [] → s.read = none → Does deps (fun _ s' => s' = s) (fun _ _ => False) p s

variable {p : Task α} {c : Call} {f : α → Task β} {post : β → Seen → Prop} {fail : Thrown → Seen → Prop}
  {s : Seen}

theorem Contained.quiet (h : Contained deps p) : Quiet deps p := by
  intro s hex hr
  exact (h s hex hr).mono (fun _ _ hs => hs) fun _ _ hf => hf.elim

theorem contained_pure (a : α) : Contained deps (pure a : Task α) := fun _ _ _ => rfl

theorem contained_ite {b : Bool} {q : Task α} (hp : Contained deps p) (hq : Contained deps q) :
    Contained deps (if b then p else q) := by
  cases b with
  | true => exact hp
  | false => exact hq

theorem quiet_ask (hq : c.quiet = true) : Quiet deps (ask c) := by
  intro s hex hr
  have ho : ∀ answer, observe s c answer = s := by
    intro answer
    cases c <;> first | rfl | cases hq
  have hd : Due deps s c := by
    cases c <;> first | exact ⟨hex, hr⟩ | cases hq
  refine Interaction.meets_perform.mpr ⟨hd, fun a _ => ho _, fun e _ => ho _⟩

theorem contained_ask (hq : c.quiet = true) (ht : c.internal = true ∨ c.total = true) :
    Contained deps (ask c) := by
  intro s hex hr
  obtain ⟨hd, ho, -⟩ := Interaction.meets_perform.mp (quiet_ask hq s hex hr)
  refine Interaction.meets_perform.mpr ⟨hd, ho, fun e ha => ?_⟩
  have := ha.2 ht
  cases this

theorem Quiet.bind (hp : Quiet deps p) (hf : ∀ a, Quiet deps (f a)) : Quiet deps (p >>= f) := by
  intro s hex hr
  refine Interaction.meets_bind.mpr ((hp s hex hr).mono ?_ fun _ _ hs => hs)
  rintro a _ rfl
  exact hf a _ hex hr

theorem Contained.bind (hp : Contained deps p)
    (hf : ∀ a, Contained deps (f a)) : Contained deps (p >>= f) := by
  intro s hex hr
  refine Interaction.meets_bind.mpr ((hp s hex hr).mono ?_ fun _ _ hfl => hfl)
  rintro a _ rfl
  exact hf a _ hex hr

theorem Quiet.tryCatch {ha : Thrown → Task α} (hp : Quiet deps p)
    (hh : ∀ e, Contained deps (ha e)) : Contained deps (p.tryCatch ha) := by
  intro s hex hr
  refine Interaction.meets_tryCatch.mpr ((hp s hex hr).mono (fun _ _ hs => hs) ?_)
  rintro e _ rfl
  exact hh e _ hex hr

theorem Quiet.attempt {p : Task Unit} (hp : Quiet deps p) : Contained deps (attempt p) :=
  hp.tryCatch fun _ => contained_pure ()

theorem quiet_log (line : LogLine) : Quiet deps (log line) := quiet_ask rfl

theorem contained_now : Contained deps now := contained_ask rfl (Or.inr rfl)

theorem quiet_report (line : String → LogLine) (err : Thrown) : Quiet deps (report line err) := by
  cases err with
  | value text => exact quiet_log _
  | unreadable => exact fun s _ _ => rfl

/-! ### The quiet parts -/

theorem contained_receive (signal : Option String) : Contained deps (receive signal) :=
  (quiet_log _).attempt

theorem contained_drain : Contained deps (drain deps) := by
  refine contained_ite ?_ (contained_pure ())
  exact Quiet.tryCatch (quiet_ask rfl) fun err => (quiet_report _ err).attempt

theorem contained_waitDelay : Contained deps (waitDelay deps) := by
  unfold waitDelay
  dsimp only
  split
  · refine (quiet_log _).attempt.bind fun _ => contained_now.bind fun _ => ?_
    refine Contained.bind (contained_ask rfl (Or.inr rfl)) fun _ => ?_
    exact contained_now.bind fun _ => contained_pure _
  · exact contained_pure _

theorem contained_enterClosing : Contained deps (enterClosing deps) := by
  refine contained_ite ?_ (contained_pure ())
  exact Quiet.tryCatch (quiet_ask rfl) fun err => (quiet_report _ err).attempt

theorem contained_startReaper : Contained deps (startReaper deps) :=
  contained_ite (contained_ask rfl (Or.inl rfl)) (contained_pure ())

theorem contained_countConnections : Contained deps (countConnections deps) := by
  refine contained_ite ?_ (contained_pure _)
  refine Quiet.tryCatch (Quiet.bind (quiet_ask rfl) fun _ => ?_) fun _ => contained_pure _
  exact (contained_pure _).quiet

theorem contained_readStats : Contained deps (readStats deps) := by
  refine contained_ite ?_ (contained_pure _)
  refine Quiet.tryCatch (Quiet.bind (quiet_ask rfl) fun _ => ?_) fun _ => contained_pure _
  exact (contained_pure _).quiet

theorem contained_summarize (drainStartedAt delayWaitedMs : Int) (forcedConnections : Option Int) :
    Contained deps (summarize deps drainStartedAt delayWaitedMs forcedConnections) := by
  refine Quiet.attempt (contained_readStats.quiet.bind fun _ => ?_)
  exact contained_now.quiet.bind fun _ => quiet_log _

/-! ### The parts that are noticed -/

theorem Contained.then (hp : Contained deps p) (hex : s.exits = []) (hr : s.read = none)
    (hf : ∀ a, Does deps post fail (f a) s) : Does deps post fail (p >>= f) s := by
  refine Interaction.meets_bind.mpr ((hp s hex hr).mono ?_ fun _ _ hfl => hfl.elim)
  rintro a _ rfl
  exact hf a

theorem does_internal {f : c.Result → Task β} (hi : c.internal = true) (hd : Due deps s c)
    (hf : ∀ a, Does deps post fail (f a) (observe s c (.ok a))) :
    Does deps post fail (ask c >>= f) s := by
  refine Interaction.meets_bind.mpr (Interaction.meets_perform.mpr ⟨hd, fun a _ => hf a, ?_⟩)
  intro e ha
  have := ha.2 (Or.inl hi)
  cases this

theorem contained_recordForced (forcedConnections : Option Int) :
    Contained deps (recordForced deps forcedConnections) := by
  cases forcedConnections with
  | none => exact contained_pure ()
  | some count =>
    refine contained_ite ?_ (contained_pure ())
    exact Quiet.attempt (p := ask (.recordForcedConnections count)) (quiet_ask rfl)

theorem contained_dropConnections : Contained deps (dropConnections deps) := by
  refine contained_ite ?_ (contained_pure ())
  exact Quiet.attempt (p := ask .forceCloseConnections) (quiet_ask rfl)

theorem does_forceIf (hex : s.exits = []) (hr : s.read = none) (timedOut : Bool)
    (hm : s.marked = false) :
    Does deps (fun _ s' => s' = { s with marked := timedOut }) (fun _ _ => False)
      (forceIf deps timedOut) s := by
  cases timedOut with
  | false =>
    change s = _
    rw [← hm]
  | true =>
    refine does_internal rfl ⟨hex, hr⟩ fun _ => ?_
    refine Contained.then contained_countConnections hex hr fun forcedConnections => ?_
    refine Contained.then (quiet_log _).attempt hex hr fun _ => ?_
    refine Contained.then (contained_recordForced _) hex hr fun _ => ?_
    refine Contained.then contained_dropConnections hex hr fun _ => ?_
    rfl

theorem does_checkHooks (hexi : s.exits = []) (hread : s.read = none) (hhooks : s.hookFailed = none) :
    Does deps
      (fun _ s' => ∃ hooks : Option Bool, hooks.isSome = deps.hookFailed ∧
        s' = { s with hookFailed := hooks, marked := s.marked || hooks == some true })
      (fun _ _ => False) (checkHooks deps) s := by
  unfold checkHooks
  by_cases hgvn : deps.hookFailed = true
  · rw [if_pos hgvn]
    -- the probe and the logger of its result throw into the same handler
    have hhan : ∀ s' : Seen, s'.exits = [] → s'.read = none →
        { s' with marked := true } = { s with hookFailed := some true, marked := true } →
        Does deps
          (fun _ s' => ∃ hooks : Option Bool, hooks.isSome = deps.hookFailed ∧
            s' = { s with hookFailed := hooks, marked := s.marked || hooks == some true })
          (fun _ _ => False) (do
            setFailed
            attempt (log .hooksUnchecked)) s' := by
      intro s' hexi' hread' hsame
      refine does_internal rfl ⟨hexi', hread'⟩ fun _ => ?_
      have hlog : Contained deps (attempt (log .hooksUnchecked)) := (quiet_log _).attempt
      refine (hlog { s' with marked := true } hexi' hread').mono ?_ fun _ _ h => h
      rintro _ _ rfl
      exact ⟨some true, by simp [hgvn], by simpa [observe] using hsame⟩
    refine Interaction.meets_tryCatch.mpr (Interaction.meets_bind.mpr
      (Interaction.meets_perform.mpr ⟨⟨hexi, hread⟩, fun failed _ => ?_, fun e _ => ?_⟩))
    · cases failed with
      | false =>
        refine ⟨some false, by simp [hgvn], ?_⟩
        simp [observe]
      | true =>
        refine does_internal rfl ⟨hexi, hread⟩ fun _ => ?_
        refine (quiet_log .hooksFailed { s with hookFailed := some true, marked := true } hexi
          hread).mono ?_ ?_
        · rintro _ _ rfl
          exact ⟨some true, by simp [hgvn], by simp⟩
        · rintro _ _ rfl
          exact hhan _ hexi hread rfl
    · exact hhan _ hexi hread rfl
  · rw [if_neg hgvn]
    refine ⟨none, by simpa using hgvn, ?_⟩
    cases s
    cases hhooks
    simp

theorem does_flushTelemetry (hex : s.exits = []) (hr : s.read = none) :
    Does deps
      (fun _ s' => ∃ flushed, s' = { s with flushed := some flushed, marked := s.marked || !flushed })
      (fun _ _ => False) flushTelemetry s := by
  have hh : ∀ text, Does deps
      (fun _ s' => ∃ flushed, s' = { s with flushed := some flushed, marked := s.marked || !flushed })
      (fun _ _ => False) (do
        setFailed
        report .telemetryFailed (.value text)) { s with flushed := some false } := by
    intro text
    refine does_internal rfl ⟨hex, hr⟩ fun _ => ?_
    refine Interaction.meets_perform.mpr ⟨⟨hex, hr⟩, fun _ _ => ?_, fun e ha => ?_⟩
    · exact ⟨false, by simp [observe]⟩
    · cases ha.1
  refine Interaction.meets_tryCatch.mpr (Interaction.meets_bind.mpr
    (Interaction.meets_perform.mpr ⟨⟨hex, hr⟩, fun _ _ => ?_, fun e ha => ?_⟩))
  · refine Interaction.meets_perform.mpr ⟨⟨hex, hr⟩, fun _ _ => ?_, fun e ha => ?_⟩
    · exact ⟨true, by simp [observe]⟩
    · cases e with
      | value text => exact hh text
      | unreadable => cases ha.1
  · cases e with
    | value text => exact hh text
    | unreadable => cases ha.1

theorem does_leave (hex : s.exits = []) (hr : s.read = none) (hv : Verdict deps s) :
    Does deps (fun _ => Left deps) (fun _ _ => False) leave s := by
  refine does_internal rfl ⟨hex, hr, hv⟩ fun failed => ?_
  have hv' : Verdict deps { s with read := some failed } :=
    ⟨hv.raced, hv.hooks, hv.flushed, hv.marked⟩
  have hl : Left deps { s with read := some failed, exits := s.exits ++ [exitCode failed] } := by
    refine ⟨⟨hv.raced, hv.hooks, hv.flushed, hv.marked⟩, failed, rfl, ?_⟩
    simp [hex]
  refine Interaction.meets_tryCatch.mpr (Interaction.meets_perform.mpr ⟨?_, fun _ _ => ?_, fun _ _ => ?_⟩)
  · exact ⟨hex, hv', failed, rfl, rfl⟩
  · exact hl
  · exact hl

theorem meets_run (deps : ShutdownDeps) (signal : Option String) :
    Does deps (fun _ => Left deps) (fun _ _ => False) (run deps signal) {} := by
  refine Contained.then contained_now rfl rfl fun drainStartedAt => ?_
  refine Contained.then (contained_receive signal) rfl rfl fun _ => ?_
  refine Contained.then contained_drain rfl rfl fun _ => ?_
  refine Contained.then contained_waitDelay rfl rfl fun delayWaitedMs => ?_
  refine Contained.then contained_enterClosing rfl rfl fun _ => ?_
  refine Contained.then contained_startReaper rfl rfl fun _ => ?_
  refine does_internal rfl ⟨rfl, rfl, rfl⟩ fun _ => ?_
  refine does_internal rfl ⟨rfl, rfl⟩ fun _ => ?_
  refine does_internal rfl ⟨rfl, rfl, rfl⟩ fun (timedOut : Bool) => ?_
  refine Interaction.meets_bind.mpr ((does_forceIf rfl rfl timedOut rfl).mono ?_ fun _ _ h => h)
  rintro forcedConnections _ rfl
  refine Contained.then (contained_summarize _ _ _) rfl rfl fun _ => ?_
  refine Interaction.meets_bind.mpr ((does_checkHooks rfl rfl rfl).mono ?_ fun _ _ h => h)
  rintro _ _ ⟨hooks, hgvn, rfl⟩
  refine Interaction.meets_bind.mpr ((does_flushTelemetry rfl rfl).mono ?_ fun _ _ h => h)
  rintro _ _ ⟨flushed, rfl⟩
  refine does_leave rfl rfl ⟨by simp [observe], hgvn, by simp, ?_⟩
  simp [observe, or_assoc]

/-! ## The close -/

/-- The application has not been closed, or has been closed once and is not closed again. Of the timers and
variables, the close uses the one that marks a failure. -/
def CloseDue (s : Seen) (c : Call) : Prop :=
  (s.closes = 0 ∨ s.closes = 1 ∧ ∀ signal, c ≠ .close signal) ∧ (c.internal = true → c = .setFailed)

/-- A part after the call of `close`, which does not call it again. -/
def Unclosed (p : Task α) : Prop :=
  ∀ s : Seen, s.closes = 1 →
    Interaction.Meets observe (fun _ _ _ => True) CloseDue (fun _ s' => s'.closes = 1)
      (fun _ s' => s'.closes = 1) p s

theorem unclosed_ask {c : Call} (hc : ∀ signal, c ≠ .close signal)
    (hi : c.internal = true → c = .setFailed) : Unclosed (ask c) := by
  intro s hcl
  have ho : ∀ answer, (observe s c answer).closes = s.closes := by
    intro answer
    cases c <;> cases answer <;> first | rfl | exact absurd rfl (hc _)
  refine Interaction.meets_perform.mpr ⟨⟨Or.inr ⟨hcl, hc⟩, hi⟩, fun a _ => ?_, fun e _ => ?_⟩
  · rw [ho, hcl]
  · rw [ho, hcl]

theorem Unclosed.bind {p : Task α} {f : α → Task β} (hp : Unclosed p) (hf : ∀ a, Unclosed (f a)) :
    Unclosed (p >>= f) := by
  intro s hc
  refine Interaction.meets_bind.mpr ((hp s hc).mono ?_ fun _ _ h => h)
  intro a s' hc'
  exact hf a s' hc'

theorem unclosed_report (line : String → LogLine) (err : Thrown) : Unclosed (report line err) := by
  cases err with
  | value text => exact unclosed_ask (by simp) nofun
  | unreadable => exact fun s hc => hc

theorem closes_closePhase (signal : Option String) :
    Interaction.Meets observe (fun _ _ _ => True) CloseDue (fun _ s => s.closes = 1)
      (fun _ s => s.closes = 1) (closePhase signal) {} := by
  have hh : ∀ err, Unclosed (do
      setFailed
      report .closeFailed err) := by
    intro err
    exact Unclosed.bind (unclosed_ask (by simp) fun _ => rfl) fun _ => unclosed_report _ err
  refine Interaction.meets_tryCatch.mpr (Interaction.meets_bind.mpr (Interaction.meets_perform.mpr
    ⟨⟨Or.inl rfl, nofun⟩, fun _ _ => ?_, fun err _ => hh err _ rfl⟩))
  have hc : Unclosed (ask .closed) := unclosed_ask (by simp) nofun
  refine (hc _ rfl).mono (fun _ _ h => h) ?_
  intro err s hcl
  exact hh err s hcl

/-- The close does not throw, and has marked the shutdown as failed unless it resolved. -/
abbrev Settles (p : Task Unit) (s : Seen) : Prop :=
  Interaction.Meets observe Allowed (fun _ _ => True) (fun _ s => s.marked = !s.resolved)
    (fun _ _ => False) p s

theorem settles_closeFailed (text : String) {s : Seen} (hr : s.resolved = false) :
    Settles (do
      setFailed
      report .closeFailed (.value text)) s := by
  refine Interaction.meets_bind.mpr ?_
  refine (Interaction.meets_perform (c := Call.setFailed)).mpr ⟨trivial, fun _ _ => ?_, fun err ha => ?_⟩
  · refine (Interaction.meets_perform (c := Call.log _)).mpr ⟨trivial, fun _ _ => ?_, fun _ ha => ?_⟩
    · simp [observe, hr]
    · cases ha.1
  · have := ha.2 (Or.inl rfl)
    cases this

theorem meets_closePhase (signal : Option String) : Settles (closePhase signal) {} := by
  refine Interaction.meets_tryCatch.mpr ?_
  refine Interaction.meets_bind.mpr ?_
  refine (Interaction.meets_perform (c := Call.close signal)).mpr
    ⟨trivial, fun _ _ => ?_, fun err ha => ?_⟩
  · refine (Interaction.meets_perform (c := Call.closed)).mpr ⟨trivial, fun _ _ => rfl, fun err ha => ?_⟩
    cases err with
    | value text => exact settles_closeFailed text rfl
    | unreadable => cases ha.1
  · cases err with
    | value text => exact settles_closeFailed text rfl
    | unreadable => cases ha.1

end Main

/-! ## The reaper -/

/-- A program that does not throw, whatever the answers are. -/
def Harmless {α : Type} (p : Task α) : Prop :=
  Interaction.Meets (fun _ _ _ => ()) (fun _ _ _ => True) (fun _ _ => True) (fun _ _ => True)
    (fun _ _ => False) p ()

theorem meets_trivial {α : Type} (p : Task α) :
    Interaction.Meets (fun _ _ _ => ()) (fun _ _ _ => True) (fun _ _ => True) (fun _ _ => True)
      (fun _ _ => True) p () := by
  induction p with
  | pure a => trivial
  | throw e => trivial
  | call c k ih => exact ⟨trivial, fun answer _ => ih answer⟩

theorem harmless_tryCatch {α : Type} (p : Task α) {ha : Thrown → Task α}
    (hh : ∀ e, Harmless (ha e)) : Harmless (p.tryCatch ha) :=
  Interaction.meets_tryCatch.mpr ((meets_trivial p).mono (fun _ _ h => h) fun e _ _ => hh e)

theorem harmless_reaperTick (deps : ShutdownDeps) (logged : Bool) : Harmless (reaperTick deps logged) := by
  refine harmless_tryCatch _ fun err => ?_
  cases logged with
  | true => exact trivial
  | false =>
    have ha : Harmless (attempt (report .reaperFailed err)) := harmless_tryCatch _ fun _ => trivial
    exact Interaction.meets_bind.mpr (Interaction.Meets.mono ha (fun _ _ _ => trivial) fun _ _ h => h)

/-! ## Bounds -/

section Bounds

open Interaction

variable {deps : ShutdownDeps}

theorem bounded_ask (c : Call) : Bounded (ask c) 1 := bounded_perform c

theorem bounded_ite {α : Type} {b : Bool} {p q : Task α} {n : ℕ} (hp : Bounded p n) (hq : Bounded q n) :
    Bounded (if b then p else q) n := by
  cases b with
  | true => exact hp
  | false => exact hq

theorem bounded_attempt {p : Task Unit} {n : ℕ} (hp : Bounded p n) : Bounded (attempt p) n :=
  hp.tryCatch (n := 0) fun _ => trivial

theorem bounded_report (line : String → LogLine) (err : Thrown) : Bounded (report line err) 1 := by
  cases err with
  | value text => exact bounded_ask _
  | unreadable => trivial

theorem bounded_closePhase (signal : Option String) : Bounded (closePhase signal) 4 := by
  refine Bounded.tryCatch (m := 2) (n := 2) ?_ fun err => ?_
  · exact Bounded.bind (m := 1) (n := 1) (bounded_ask _) fun _ => bounded_ask _
  · exact Bounded.bind (m := 1) (n := 1) (bounded_ask _) fun _ => bounded_report _ err

theorem bounded_drain : Bounded (drain deps) 2 := by
  refine bounded_ite ?_ trivial
  exact Bounded.tryCatch (m := 1) (n := 1) (bounded_ask _) fun err =>
    bounded_attempt (bounded_report _ err)

theorem bounded_enterClosing : Bounded (enterClosing deps) 2 := by
  refine bounded_ite ?_ trivial
  exact Bounded.tryCatch (m := 1) (n := 1) (bounded_ask _) fun err =>
    bounded_attempt (bounded_report _ err)

theorem bounded_waitDelay : Bounded (waitDelay deps) 4 := by
  unfold waitDelay
  dsimp only
  split
  · refine Bounded.bind (m := 1) (n := 3) (bounded_attempt (bounded_ask _)) fun _ => ?_
    refine Bounded.bind (m := 1) (n := 2) (bounded_ask _) fun _ => ?_
    refine Bounded.bind (m := 1) (n := 1) (bounded_ask _) fun _ => ?_
    exact Bounded.bind (m := 1) (n := 0) (bounded_ask _) fun _ => trivial
  · trivial

theorem bounded_forceIf (timedOut : Bool) : Bounded (forceIf deps timedOut) 5 := by
  refine bounded_ite ?_ trivial
  refine Bounded.bind (m := 1) (n := 4) (bounded_ask _) fun _ => ?_
  have hc : Bounded (countConnections deps) 1 := by
    refine bounded_ite ?_ trivial
    refine Bounded.tryCatch (m := 1) (n := 0) ?_ fun _ => trivial
    exact Bounded.bind (m := 1) (n := 0) (bounded_ask _) fun _ => trivial
  refine Bounded.bind (m := 1) (n := 3) hc fun forcedConnections => ?_
  refine Bounded.bind (m := 1) (n := 2) (bounded_attempt (bounded_ask _)) fun _ => ?_
  have hr : Bounded (recordForced deps forcedConnections) 1 := by
    cases forcedConnections with
    | none => trivial
    | some count =>
      exact bounded_ite (bounded_attempt (p := ask (.recordForcedConnections count)) (bounded_ask _)) trivial
  refine Bounded.bind (m := 1) (n := 1) hr fun _ => ?_
  refine Bounded.bind (m := 1) (n := 0) ?_ fun _ => trivial
  exact bounded_ite (bounded_attempt (p := ask .forceCloseConnections) (bounded_ask _)) trivial

theorem bounded_summarize (drainStartedAt delayWaitedMs : Int) (forcedConnections : Option Int) :
    Bounded (summarize deps drainStartedAt delayWaitedMs forcedConnections) 3 := by
  refine bounded_attempt (Bounded.bind (m := 1) (n := 2) ?_ fun _ => ?_)
  · refine bounded_ite ?_ trivial
    refine Bounded.tryCatch (m := 1) (n := 0) ?_ fun _ => trivial
    exact Bounded.bind (m := 1) (n := 0) (bounded_ask _) fun _ => trivial
  · exact Bounded.bind (m := 1) (n := 1) (bounded_ask _) fun _ => bounded_ask _

theorem bounded_checkHooks : Bounded (checkHooks deps) 5 := by
  refine bounded_ite ?_ trivial
  refine Bounded.tryCatch (m := 3) (n := 2) ?_ fun _ => ?_
  · refine Bounded.bind (m := 1) (n := 2) (bounded_ask _) fun _ => bounded_ite ?_ trivial
    exact Bounded.bind (m := 1) (n := 1) (bounded_ask _) fun _ => bounded_ask _
  · exact Bounded.bind (m := 1) (n := 1) (bounded_ask _) fun _ => bounded_attempt (bounded_ask _)

theorem bounded_leave : Bounded leave 2 := by
  refine Bounded.bind (m := 1) (n := 1) (bounded_ask _) fun (failed : Bool) => ?_
  exact bounded_attempt (p := ask (.exit (if failed then 1 else 0))) (bounded_ask _)

theorem bounded_run (signal : Option String) : Bounded (run deps signal) 33 := by
  refine Bounded.bind (m := 1) (n := 32) (bounded_ask _) fun _ => ?_
  refine Bounded.bind (m := 1) (n := 31) (bounded_attempt (bounded_ask _)) fun _ => ?_
  refine Bounded.bind (m := 2) (n := 29) bounded_drain fun _ => ?_
  refine Bounded.bind (m := 4) (n := 25) bounded_waitDelay fun _ => ?_
  refine Bounded.bind (m := 2) (n := 23) bounded_enterClosing fun _ => ?_
  refine Bounded.bind (m := 1) (n := 22) (bounded_ite (bounded_ask _) trivial) fun _ => ?_
  refine Bounded.bind (m := 1) (n := 21) (bounded_ask _) fun _ => ?_
  refine Bounded.bind (m := 1) (n := 20) (bounded_ask _) fun _ => ?_
  refine Bounded.bind (m := 1) (n := 19) (bounded_ask _) fun _ => ?_
  refine Bounded.bind (m := 5) (n := 14) (bounded_forceIf _) fun _ => ?_
  refine Bounded.bind (m := 3) (n := 11) (bounded_summarize _ _ _) fun _ => ?_
  refine Bounded.bind (m := 5) (n := 6) bounded_checkHooks fun _ => ?_
  refine Bounded.bind (m := 4) (n := 2) ?_ fun _ => bounded_leave
  refine Bounded.tryCatch (m := 2) (n := 2) ?_ fun err => ?_
  · exact Bounded.bind (m := 1) (n := 1) (bounded_ask _) fun _ => bounded_ask _
  · exact Bounded.bind (m := 1) (n := 1) (bounded_ask _) fun _ => bounded_report _ err

end Bounds

end AcdpControlPlane.Shutdown
