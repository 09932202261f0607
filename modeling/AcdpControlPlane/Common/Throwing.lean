import Mathlib.Tactic.Common

/-!
# Functions that throw

A function that may throw returns an `Except`, and a sequence of such functions is their bind. What is
known after the sequence has returned is what each part has returned, in order: `bind_eq_ok` peels off
the first part, and is used with `obtain` in place of unfolding the bind.
-/

namespace Throwing

universe u v

variable {ε ε' : Type u} {α β : Type v}

theorem bind_eq_ok {first : Except ε α} {rest : α → Except ε β} {b : β} :
    first >>= rest = .ok b ↔ ∃ a, first = .ok a ∧ rest a = .ok b := by
  cases first with
  | error err =>
    refine iff_of_false (fun h => nomatch h) ?_
    rintro ⟨a, h, -⟩
    cases h
  | ok a =>
    constructor
    · intro h
      exact ⟨a, rfl, h⟩
    · rintro ⟨a', hf, h⟩
      cases hf
      exact h

theorem check_bind_eq_ok {ε β : Type} {check : Except ε Unit} {rest : Unit → Except ε β} {b : β} :
    check >>= rest = .ok b ↔ check = .ok () ∧ rest () = .ok b := by
  cases check with
  | error err => exact iff_of_false (fun h => nomatch h) (fun h => nomatch h.1)
  | ok u => exact ⟨fun h => ⟨rfl, h⟩, fun h => h.2⟩

theorem map_eq_ok {f : α → β} {result : Except ε α} {b : β} :
    result.map f = .ok b ↔ ∃ a, result = .ok a ∧ f a = b := by
  cases result with
  | error err =>
    refine iff_of_false (fun h => nomatch h) ?_
    rintro ⟨a, h, -⟩
    cases h
  | ok a => simp [Except.map]

@[simp] theorem mapError_eq_ok {f : ε → ε'} {result : Except ε α} {a : α} :
    result.mapError f = .ok a ↔ result = .ok a := by
  cases result with
  | error err => exact iff_of_false (fun h => nomatch h) (fun h => nomatch h)
  | ok a' => simp [Except.mapError]

@[simp] theorem ite_error_eq_ok {condition : Prop} [Decidable condition] {err : ε} {result : Except ε α}
    {a : α} : (if condition then .error err else result) = .ok a ↔ ¬ condition ∧ result = .ok a := by
  by_cases hc : condition
  · rw [if_pos hc]
    exact iff_of_false (fun h => nomatch h) (fun h => h.1 hc)
  · rw [if_neg hc]
    exact ⟨fun h => ⟨hc, h⟩, fun h => h.2⟩

def require (passed : Bool) (err : ε) : Except ε Unit :=
  if passed then .ok () else .error err

@[simp] theorem require_eq_ok {passed : Bool} {err : ε} {u : Unit} :
    require passed err = .ok u ↔ passed = true := by
  cases passed <;> simp [require]

end Throwing
