import AcdpControlPlane.Common.Js
import AcdpControlPlane.Common.Program

/-!
# Statements of the database

A statement may fail before it is applied, or be applied and then fail to be acknowledged; a process
that dies at a statement is in one of these two positions. A function that runs several statements
stops at the first that fails, and what was applied stays.
-/

namespace AcdpControlPlane

/-! ## Columns -/

/-- A column of type `timestamptz`. -/
structure Timestamptz where
  read : String → Except JsError Int
  render : Int → String

/-- The text columns. The code passes whatever value a payload has. -/
structure TextColumns where
  text : Json → String
  text_str : ∀ s, text (.str s) = s

/-! ## Faults -/

/-- What may go wrong with a statement. -/
inductive Fault where
  | none
  | lost
  | unacknowledged
deriving DecidableEq, Repr

def databaseError : JsError := ⟨"Connection terminated unexpectedly"⟩

/-- The tables, and the number of statements that were run so far. -/
structure DbSession (σ : Type) where
  tables : σ
  calls : ℕ
deriving DecidableEq

/-- A function that runs statements on tables `σ`. -/
abbrev Statements (σ α : Type) := EStateM JsError (DbSession σ) α

section Statements

variable {σ α : Type} (faults : ℕ → Fault)

/-- Run a statement. The faults say what happens to each of them. -/
def statement (f : σ → Except JsError α × σ) : Statements σ α := fun s =>
  match faults s.calls with
  | .none =>
    match f s.tables with
    | (.ok a, tables) => .ok a ⟨tables, s.calls + 1⟩
    | (.error e, tables) => .error e ⟨tables, s.calls + 1⟩
  | .lost => .error databaseError ⟨s.tables, s.calls + 1⟩
  | .unacknowledged => .error databaseError ⟨(f s.tables).2, s.calls + 1⟩

variable {faults}

theorem keeps_statement {R : σ → σ → Prop} (hr : ∀ t, R t t) {f : σ → Except JsError α × σ}
    (hf : ∀ t, R t (f t).2) :
    Program.Keeps (fun s s' => R s.tables s'.tables) (statement faults f) := by
  intro s
  cases hfl : faults s.calls with
  | none =>
    cases hru : f s.tables with
    | mk result tables =>
      have hk := hf s.tables
      cases result <;> simpa [Program.after, statement, hfl, hru] using hk
  | lost => simpa [Program.after, statement, hfl] using hr s.tables
  | unacknowledged => simpa [Program.after, statement, hfl] using hf s.tables

theorem commutes_statement {g : σ → σ} {f : σ → Except JsError α × σ}
    (hf : ∀ t, f (g t) = ((f t).1, g (f t).2)) :
    Program.Commutes (fun s : DbSession σ => { s with tables := g s.tables })
      (statement faults f) := by
  intro s
  cases hfl : faults s.calls with
  | none =>
    cases hr : f s.tables with
    | mk result tables =>
      have hc := hf s.tables
      cases result <;> simp [Program.mapState, statement, hfl, hr, hc]
  | lost => simp [Program.mapState, statement, hfl]
  | unacknowledged => simp [Program.mapState, statement, hfl, hf]

end Statements

end AcdpControlPlane
