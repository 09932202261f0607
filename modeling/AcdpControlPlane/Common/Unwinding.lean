import Mathlib.Data.List.Basic

/-!
# Operations that are not observed

A deterministic machine is observed through a view of its state. If an operation never changes the view,
and if what every other operation makes of the view depends on nothing but the view, then the operation
might as well not have happened: a run and the same run without it end in the same view.
-/

namespace Unwinding

variable {State Op View : Type*} {next : State → Op → State} {hidden : Op → Bool}

theorem view_foldl_filter (view : State → View)
    (hk : ∀ s op, hidden op = true → view (next s op) = view s)
    (hd : ∀ s t op, view s = view t → view (next s op) = view (next t op)) {s t : State}
    (h : view s = view t) (ops : List Op) :
    view (ops.foldl next s) = view ((ops.filter (!hidden ·)).foldl next t) := by
  induction ops generalizing s t with
  | nil => exact h
  | cons op ops ih =>
    cases ho : hidden op with
    | true =>
      rw [List.foldl_cons, List.filter_cons_of_neg (by simp [ho])]
      exact ih ((hk s op ho).trans h)
    | false =>
      rw [List.foldl_cons, List.filter_cons_of_pos (by simp [ho]), List.foldl_cons]
      exact ih (hd s t op h)

end Unwinding
