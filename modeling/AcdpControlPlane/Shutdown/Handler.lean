import AcdpControlPlane.Common.Interaction
import AcdpControlPlane.Common.Trace
import Mathlib

/-!
# The shutdown handler

On the first signal the process drains, closes the application against a deadline, flushes telemetry and
exits. Each step is contained, so that none can keep the rest from happening, and a further signal only cuts
the drain delay short. The handler is a program that calls its dependencies; the close runs beside it and
is raced by a timer; a reaper ticks while it is closed.
-/

namespace AcdpControlPlane.Shutdown

/-! ## The programs -/

/-- A value that is thrown: what `err.message` or `String(err)` reads, unless that throws as well. -/
inductive Thrown where
  | value (text : String)
  | unreadable
deriving DecidableEq, Repr

/-- The optional dependencies that are given, and the settings. -/
structure ShutdownDeps where
  forceCloseConnections : Bool
  hookFailed : Bool
  beginDrain : Bool
  listenerClosed : Bool
  reapIdleConnections : Bool
  openConnections : Bool
  recordForcedConnections : Bool
  drainStats : Bool
  beginClosing : Bool
  drainDelayMs : Option Int
  timeoutMs : Option Int
deriving DecidableEq, Repr

def DEFAULT_SHUTDOWN_TIMEOUT_MS : Int := 10000

structure DrainStats where
  sseStreamsTerminated : Int
  drainRejections : Int
deriving DecidableEq, Repr

inductive LogLine where
  | received (signal : String)
  | secondSignal (signal : String)
  | drainFailed (error : String)
  | draining (configuredDelayMs : Int)
  | closingFailed (error : String)
  | reaperFailed (error : String)
  | closeFailed (error : String)
  | timedOut (timeoutMs : Int) (forcedConnections : Option Int)
  | drainComplete (drainMs drainDelayMs : Int) (sseStreamsTerminated drainRejections : Option Int)
      (forcedConnections : Option Int)
  | hooksFailed
  | hooksUnchecked
  | telemetryFailed (error : String)
deriving DecidableEq, Repr

/-- The calls of dependencies, the promises that are awaited, and the timers and variables that the
programs of a shutdown share. -/
inductive Call where
  | now
  | log (line : LogLine)
  | beginDrain
  | delay (delayMs : Int)
  | beginClosing
  | startReaper
  | startClose
  | startDeadline (timeoutMs : Int)
  | race
  | openConnections
  | recordForcedConnections (count : Int)
  | forceCloseConnections
  | drainStats
  | hookFailed
  | setFailed
  | getFailed
  | stopTelemetry
  | telemetryStopped
  | exit (code : Int)
  | close (signal : Option String)
  | closed
  | listenerClosed
  | reapIdleConnections
deriving DecidableEq, Repr

def Call.Result : Call → Type
  | .now => Int
  | .race => Bool
  | .openConnections => Int
  | .drainStats => DrainStats
  | .hookFailed => Bool
  | .getFailed => Bool
  | .listenerClosed => Bool
  | _ => Unit

abbrev Task (α : Type) := Interaction Call Call.Result Thrown α

def ask (c : Call) : Task c.Result := Interaction.perform c

def now : Task Int := ask .now

def log (line : LogLine) : Task Unit := ask (.log line)

def setFailed : Task Unit := ask .setFailed

def attempt (p : Task Unit) : Task Unit := p.tryCatch fun _ => pure ()

def report (line : String → LogLine) : Thrown → Task Unit
  | .value text => log (line text)
  | .unreadable => .throw .unreadable

def receive (signal : Option String) : Task Unit := attempt (log (.received (signal.getD "shutdown")))

def drain (deps : ShutdownDeps) : Task Unit :=
  if deps.beginDrain then
    (ask .beginDrain : Task Unit).tryCatch fun err => attempt (report .drainFailed err)
  else pure ()

/-- The drain delay, if there is one; the result is `delayWaitedMs`. -/
def waitDelay (deps : ShutdownDeps) : Task Int :=
  let delayMs := deps.drainDelayMs.getD 0
  if delayMs > 0 then do
    attempt (log (.draining delayMs))
    let delayStartedAt ← now
    let _ ← (ask (.delay delayMs) : Task Unit)
    let delayEndedAt ← now
    pure (delayEndedAt - delayStartedAt)
  else pure 0

def enterClosing (deps : ShutdownDeps) : Task Unit :=
  if deps.beginClosing then
    (ask .beginClosing : Task Unit).tryCatch fun err => attempt (report .closingFailed err)
  else pure ()

def startReaper (deps : ShutdownDeps) : Task Unit :=
  if deps.reapIdleConnections then ask .startReaper else pure ()

/-- The connections that are open, or `null` if they cannot be counted. -/
def countConnections (deps : ShutdownDeps) : Task (Option Int) :=
  if deps.openConnections then
    (do
      let count : Int ← ask .openConnections
      pure (some count) : Task (Option Int)).tryCatch fun _ => pure none
  else pure none

def recordForced (deps : ShutdownDeps) : Option Int → Task Unit
  | some count =>
    if deps.recordForcedConnections then attempt (ask (.recordForcedConnections count)) else pure ()
  | none => pure ()

def dropConnections (deps : ShutdownDeps) : Task Unit :=
  if deps.forceCloseConnections then attempt (ask .forceCloseConnections) else pure ()

def force (deps : ShutdownDeps) : Task (Option Int) := do
  setFailed
  let forcedConnections ← countConnections deps
  attempt (log (.timedOut (deps.timeoutMs.getD DEFAULT_SHUTDOWN_TIMEOUT_MS) forcedConnections))
  recordForced deps forcedConnections
  dropConnections deps
  pure forcedConnections

def forceIf (deps : ShutdownDeps) (timedOut : Bool) : Task (Option Int) :=
  if timedOut then force deps else pure (some 0)

def readStats (deps : ShutdownDeps) : Task (Option DrainStats) :=
  if deps.drainStats then
    (do
      let stats : DrainStats ← ask .drainStats
      pure (some stats) : Task (Option DrainStats)).tryCatch fun _ => pure none
  else pure none

def summarize (deps : ShutdownDeps) (drainStartedAt delayWaitedMs : Int) (forcedConnections : Option Int) :
    Task Unit :=
  attempt do
    let stats ← readStats deps
    let endedAt ← now
    log (.drainComplete (endedAt - drainStartedAt) delayWaitedMs
      (stats.map DrainStats.sseStreamsTerminated) (stats.map DrainStats.drainRejections)
      forcedConnections)

def probeHooks : Task Unit := do
  let hookFailed : Bool ← ask .hookFailed
  if hookFailed then (do
    setFailed
    log .hooksFailed)
  else pure ()

def checkHooks (deps : ShutdownDeps) : Task Unit :=
  if deps.hookFailed then
    probeHooks.tryCatch fun _ => do
      setFailed
      attempt (log .hooksUnchecked)
  else pure ()

/-- The error of a flush that fails is logged without a `try` of its own. -/
def flushTelemetry : Task Unit :=
  (do
    let _ ← (ask .stopTelemetry : Task Unit)
    ask .telemetryStopped : Task Unit).tryCatch fun err => do
    setFailed
    report .telemetryFailed err

def leave : Task Unit := do
  let failed : Bool ← ask .getFailed
  attempt (ask (.exit (if failed then 1 else 0)))

/-- `run`, the shutdown itself. -/
def run (deps : ShutdownDeps) (signal : Option String) : Task Unit := do
  let drainStartedAt ← now
  receive signal
  drain deps
  let delayWaitedMs ← waitDelay deps
  enterClosing deps
  startReaper deps
  let _ ← (ask .startClose : Task Unit)
  let _ ← (ask (.startDeadline (deps.timeoutMs.getD DEFAULT_SHUTDOWN_TIMEOUT_MS)) : Task Unit)
  let timedOut : Bool ← ask .race
  let forcedConnections ← forceIf deps timedOut
  summarize deps drainStartedAt delayWaitedMs forcedConnections
  checkHooks deps
  flushTelemetry
  leave

/-- `closePhase`. The error of a close that fails is logged without a `try` of its own. -/
def closePhase (signal : Option String) : Task Unit :=
  (do
    let _ ← (ask (.close signal) : Task Unit)
    ask .closed : Task Unit).tryCatch fun err => do
    setFailed
    report .closeFailed err

def reap (deps : ShutdownDeps) : Task Unit :=
  if deps.listenerClosed then do
    let listenerClosed : Bool ← ask .listenerClosed
    if listenerClosed then ask .reapIdleConnections else pure ()
  else pure ()

/-- A tick of the idle-socket reaper; the result is `reaperErrorLogged`. -/
def reaperTick (deps : ShutdownDeps) (reaperErrorLogged : Bool) : Task Bool :=
  (do
    reap deps
    pure reaperErrorLogged : Task Bool).tryCatch fun err =>
    if reaperErrorLogged then pure true
    else do
      attempt (report .reaperFailed err)
      pure true

/-! ## The process -/

/-- Calls that the process answers itself: timers and shared variables. -/
def Call.internal : Call → Bool
  | .startReaper | .startClose | .startDeadline _ | .race | .setFailed | .getFailed => true
  | _ => false

/-- Calls at which a program is suspended, and other tasks go on. -/
def Call.awaited : Call → Bool
  | .delay _ | .race | .telemetryStopped | .closed => true
  | _ => false

def Call.total : Call → Bool
  | .now | .delay _ => true
  | _ => false

/-- The answers that a dependency, a promise or a timer may give. -/
def Call.permits (c : Call) (answer : Except Thrown c.Result) : Bool :=
  !c.internal && (!c.total || answer.isOk)

/-- A program is suspended at an `await`, or has ended. -/
def suspended {α : Type} (p : Task α) : Bool :=
  match p.pending with
  | some c => c.awaited
  | none => true

abbrev Exchange := (c : Call) × Except Thrown c.Result

/-- `closePhase`, once it has been called. -/
structure Closer where
  program : Task Unit
  answers : List Exchange

/-- A call of `run`, with the variables and timers of its own. -/
structure Run where
  signal : Option String
  main : Task Unit
  answers : List Exchange
  closer : Option Closer
  failed : Bool
  armed : Bool
  timedOut : Bool
  reaping : Bool
  tick : Option (Task Bool)
  reaperErrorLogged : Bool
  returned : Bool

def Run.start (deps : ShutdownDeps) (signal : Option String) : Run where
  signal := signal
  main := run deps signal
  answers := []
  closer := none
  failed := false
  armed := false
  timedOut := false
  reaping := false
  tick := none
  reaperErrorLogged := false
  returned := false

/-- The main program goes on after an answer. It returns its promise when it is suspended first. -/
def Run.answer (r : Run) (c : Call) (answer : Except Thrown c.Result) (rest : Task Unit) : Run :=
  { r with
    main := rest
    answers := r.answers ++ [⟨c, answer⟩]
    returned := r.returned || suspended rest }

/-- What a call of the timers and variables does to a run. The race is over when the deadline has passed or
`closePhase` has ended, and both timers are cleared unless it rejects. -/
def Run.advance (r : Run) : Option Run :=
  match r.main with
  | .call .startReaper k => some { r.answer .startReaper (.ok ()) (k (.ok ())) with reaping := true }
  | .call .startClose k =>
    match r.closer with
    | none => some { r with closer := some ⟨closePhase r.signal, []⟩ }
    | some closer =>
      if suspended closer.program then some (r.answer .startClose (.ok ()) (k (.ok ()))) else none
  | .call (.startDeadline timeoutMs) k =>
    some { r.answer (.startDeadline timeoutMs) (.ok ()) (k (.ok ())) with armed := true }
  | .call .race k =>
    if r.timedOut then
      some { r.answer .race (.ok true) (k (.ok true)) with armed := false, reaping := false }
    else
      match r.closer with
      | some ⟨.pure _, _⟩ =>
        some { r.answer .race (.ok false) (k (.ok false)) with armed := false, reaping := false }
      | some ⟨.throw err, _⟩ => some (r.answer .race (.error err) (k (.error err)))
      | _ => none
  | .call .setFailed k => some { r.answer .setFailed (.ok ()) (k (.ok ())) with failed := true }
  | .call .getFailed k => some (r.answer .getFailed (.ok r.failed) (k (.ok r.failed)))
  | _ => none

def Run.answerMain (r : Run) (c : Call) (answer : Except Thrown c.Result) : Option Run :=
  match r.main with
  | .call c' k =>
    if h : c' = c then
      if c.permits answer then some (r.answer c answer (k (h ▸ answer))) else none
    else none
  | _ => none

/-- `closePhase` is answered from outside. -/
def Run.answerCloser (r : Run) (c : Call) (answer : Except Thrown c.Result) : Option Run :=
  match r.closer with
  | some ⟨.call c' k, answers⟩ =>
    if h : c' = c then
      if c.permits answer then
        some { r with closer := some ⟨k (h ▸ answer), answers ++ [⟨c, answer⟩]⟩ }
      else none
    else none
  | _ => none

/-- `closePhase` sets the variable. -/
def Run.advanceCloser (r : Run) : Option Run :=
  match r.closer with
  | some ⟨.call .setFailed k, answers⟩ =>
    some { r with
      closer := some ⟨k (.ok ()), answers ++ [⟨.setFailed, .ok ()⟩]⟩
      failed := true }
  | _ => none

/-- The deadline passes before `closePhase` has ended. -/
def Run.deadline (r : Run) : Option Run :=
  match r.closer with
  | some ⟨.call _ _, _⟩ => if r.armed && !r.timedOut then some { r with timedOut := true } else none
  | _ => none

def Run.startTick (deps : ShutdownDeps) (r : Run) : Option (Task Bool) :=
  if r.reaping && r.tick.isNone then some (reaperTick deps r.reaperErrorLogged) else none

def Run.answerTick (r : Run) (c : Call) (answer : Except Thrown c.Result) : Option (Task Bool) :=
  match r.tick with
  | some (.call c' k) =>
    if h : c' = c then if c.permits answer then some (k (h ▸ answer)) else none else none
  | _ => none

/-- A tick of the reaper goes on. The second component says that it has thrown. -/
def Run.tickTo (r : Run) : Task Bool → Run × Bool
  | .pure logged => ({ r with tick := none, reaperErrorLogged := logged }, false)
  | .throw _ => ({ r with tick := none }, true)
  | .call c k => ({ r with tick := some (.call c k) }, false)

/-- The calls of `run` that are under way, the run whose delay can be skipped, the calls of the handler that
wait for their logger, and whether an exception has left the handler or a timer. -/
structure Machine where
  runs : List Run
  skipDelay : Option ℕ
  signals : ℕ
  threw : Bool

def Machine.initial : Machine := ⟨[], none, 0, false⟩

inductive Event where
  | signal (signal : Option String)
  | signalLogged (answer : Except Thrown Unit)
  | main (i : ℕ) (c : Call) (answer : Except Thrown c.Result)
  | advance (i : ℕ)
  | closer (i : ℕ) (c : Call) (answer : Except Thrown c.Result)
  | advanceCloser (i : ℕ)
  | deadline (i : ℕ)
  | tick (i : ℕ)
  | reap (i : ℕ) (c : Call) (answer : Except Thrown c.Result)

namespace Machine

/-- `inFlight` is set. -/
def inFlight (m : Machine) : Bool := m.runs.any Run.returned

def put (m : Machine) (i : ℕ) (r : Run) : Machine := { m with runs := m.runs.set i r }

/-- The main program of run `i` has been answered. The end of a delay clears `skipDelay`, and its start
sets it. -/
def proceed (m : Machine) (i : ℕ) (c : Call) (r : Run) : Machine :=
  { m.put i r with
    skipDelay :=
      match r.main.pending, c with
      | some (.delay _), _ => some i
      | _, .delay _ => none
      | _, _ => m.skipDelay }

def onSignal (deps : ShutdownDeps) (m : Machine) (signal : Option String) : Machine :=
  if m.inFlight then
    if m.skipDelay.isSome then { m with signals := m.signals + 1 } else m
  else { m with runs := m.runs ++ [Run.start deps signal] }

/-- The main program of run `i` is answered from outside. -/
def onMain (m : Machine) (i : ℕ) (c : Call) (answer : Except Thrown c.Result) : Option Machine := do
  let r ← m.runs[i]?
  let r' ← r.answerMain c answer
  some (m.proceed i c r')

/-- The delay that is pending is over: `finish`. -/
def finishDelay (m : Machine) (i : ℕ) : Option Machine := do
  let r ← m.runs[i]?
  match r.main.pending with
  | some (.delay delayMs) => m.onMain i (.delay delayMs) (.ok ())
  | _ => none

/-- The handler goes on to `skipDelay()`, which throws if it is undefined by now. -/
def onSignalLogged (m : Machine) : Option Machine :=
  match m.signals, m.skipDelay with
  | 0, _ => none
  | signals + 1, some i => finishDelay { m with signals := signals } i
  | signals + 1, none => some { m with signals := signals, threw := true }

/-- The calls of timers and variables of run `i`. -/
def onAdvance (m : Machine) (i : ℕ) : Option Machine := do
  let r ← m.runs[i]?
  let c ← r.main.pending
  let r' ← r.advance
  some (m.proceed i c r')

def onRun (m : Machine) (i : ℕ) (change : Run → Option Run) : Option Machine := do
  let r ← m.runs[i]?
  let r' ← change r
  some (m.put i r')

/-- A tick of the reaper of run `i` goes on. -/
def onTick (m : Machine) (i : ℕ) (change : Run → Option (Task Bool)) : Option Machine := do
  let r ← m.runs[i]?
  let p ← change r
  let ticked := r.tickTo p
  some { m.put i ticked.1 with threw := m.threw || ticked.2 }

/-- What happens next. While a further signal waits for its logger, only other signals can come. -/
def next (deps : ShutdownDeps) (m : Machine) : Event → Option Machine
  | .signal signal => some (m.onSignal deps signal)
  | .signalLogged _ => m.onSignalLogged
  | .main i c answer => if m.signals = 0 then m.onMain i c answer else none
  | .advance i => if m.signals = 0 then m.onAdvance i else none
  | .closer i c answer => if m.signals = 0 then m.onRun i (·.answerCloser c answer) else none
  | .advanceCloser i => if m.signals = 0 then m.onRun i Run.advanceCloser else none
  | .deadline i => if m.signals = 0 then m.onRun i Run.deadline else none
  | .tick i => if m.signals = 0 then m.onTick i (Run.startTick deps) else none
  | .reap i c answer => if m.signals = 0 then m.onTick i (·.answerTick c answer) else none

end Machine

end AcdpControlPlane.Shutdown
