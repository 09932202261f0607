import Mathlib.Data.List.Basic

/-!
# Runs with a history

A transition system takes one labelled step after another. A run is kept with its history: the labels,
the latest first, each with the state it happened in. What holds over whole runs is shown one step at
a time, and may speak of the past.
-/

universe u v

variable {State : Type u} {Event : Type v}

inductive TracedRun (step : Event → State → State → Prop) (initial : State) :
    List (Event × State) → State → Prop where
  | start : TracedRun step initial [] initial
  | step {history : List (Event × State)} {s s' : State} {event : Event}
      (run : TracedRun step initial history s) (next : step event s s') :
      TracedRun step initial ((event, s) :: history) s'

def replay (next : State → Event → Option State) :
    List Event → List (Event × State) → State → Option (List (Event × State) × State)
  | [], history, s => some (history, s)
  | event :: events, history, s =>
    (next s event).bind (replay next events ((event, s) :: history))

namespace TracedRun

variable {step : Event → State → State → Prop} {initial s : State}
  {history later earlier : List (Event × State)}

theorem invariant {Inv : List (Event × State) → State → Prop} (start : Inv [] initial)
    (kept : ∀ history s event s', TracedRun step initial history s → Inv history s →
      step event s s' → Inv ((event, s) :: history) s')
    (hr : TracedRun step initial history s) : Inv history s := by
  induction hr with
  | start => exact start
  | step run next ih => exact kept _ _ _ _ run ih next

theorem state_invariant {Inv : State → Prop} (start : Inv initial)
    (kept : ∀ s event s', Inv s → step event s s' → Inv s')
    (hr : TracedRun step initial history s) : Inv s := by
  induction hr with
  | start => exact start
  | step _ next ih => exact kept _ _ _ ih next

theorem replay {next : State → Event → Option State} {events : List Event} {s' : State}
    {history' : List (Event × State)}
    (hr : TracedRun (fun event s s' => next s event = some s') initial history s)
    (h : replay next events history s = some (history', s')) :
    TracedRun (fun event s s' => next s event = some s') initial history' s' := by
  induction events generalizing history s with
  | nil =>
    cases h
    exact hr
  | cons event events ih =>
    obtain ⟨s₁, hn, hre⟩ := Option.bind_eq_some_iff.mp h
    exact ih (hr.step hn) hre

theorem at_entry {entry : Event × State} (hr : TracedRun step initial (later ++ entry :: earlier) s) :
    TracedRun step initial earlier entry.2 ∧ ∃ s', step entry.1 entry.2 s' := by
  induction later generalizing s with
  | nil =>
    cases hr with
    | step run next => exact ⟨run, _, next⟩
  | cons _ later ih =>
    cases hr with
    | step run _ => exact ih run

theorem eq_of_run {next : State → Event → Option State} {s' : State}
    (hr : TracedRun (fun event s s' => next s event = some s') initial history s)
    (hr' : TracedRun (fun event s s' => next s event = some s') initial history s') : s = s' := by
  cases hr with
  | start =>
    cases hr'
    rfl
  | step _ hn =>
    cases hr' with
    | step _ hn' => exact Option.some.inj (hn.symm.trans hn')

end TracedRun

theorem exists_run_of_replay {next : State → Event → Option State} (events : List Event)
    {initial : State} {Reached : List (Event × State) → State → Prop}
    (h : ∃ result, replay next events [] initial = some result ∧ Reached result.1 result.2) :
    ∃ history s, TracedRun (fun event s s' => next s event = some s') initial history s ∧
      Reached history s := by
  obtain ⟨⟨history, s⟩, hr, hen⟩ := h
  exact ⟨history, s, TracedRun.start.replay hr, hen⟩
