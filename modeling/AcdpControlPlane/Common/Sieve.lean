import AcdpControlPlane.Common.Throwing
import Mathlib.Data.List.Basic

/-!
# Loops that keep, skip or stop

A loop over a list judges one item after another. An item is kept, is skipped, or stops the loop, and what was
kept so far is then lost. Items that are skipped can be inserted anywhere, and nothing changes.
-/

namespace Sieve

universe u

variable {α β : Type u} {ε : Type u}

inductive Verdict (ε β : Type u) where
  | keep (b : β)
  | skip
  | stop (e : ε)

def Verdict.kept : Verdict ε β → Option β
  | keep b => some b
  | _ => none

section Run

variable (judge : α → Verdict ε β)

def run : List α → Except ε (List β)
  | [] => .ok []
  | x :: xs =>
    match judge x with
    | .keep b => (run xs).map (b :: ·)
    | .skip => run xs
    | .stop e => .error e

/-- The items up to the first that stops the loop, with it. -/
def seen : List α → List α
  | [] => []
  | x :: xs =>
    match judge x with
    | .stop _ => [x]
    | _ => x :: seen xs

variable {judge} {xs : List α} {ys : List β}

theorem run_eq_ok_iff :
    run judge xs = .ok ys ↔
      (∀ x ∈ xs, ∀ e, judge x ≠ .stop e) ∧ ys = xs.filterMap fun x => (judge x).kept := by
  induction xs generalizing ys with
  | nil => simp [run, eq_comm]
  | cons x xs ih =>
    rw [List.forall_mem_cons]
    unfold run
    cases hx : judge x with
    | stop e =>
      refine iff_of_false (by simp) ?_
      rintro ⟨⟨h, -⟩, -⟩
      exact h e rfl
    | skip =>
      rw [ih, List.filterMap_cons, hx]
      simp [Verdict.kept]
    | keep b =>
      rw [Throwing.map_eq_ok, List.filterMap_cons, hx]
      constructor
      · rintro ⟨zs, hz, rfl⟩
        obtain ⟨ha, rfl⟩ := ih.mp hz
        exact ⟨⟨nofun, ha⟩, rfl⟩
      · rintro ⟨⟨-, ha⟩, rfl⟩
        exact ⟨_, ih.mpr ⟨ha, rfl⟩, rfl⟩

end Run

/-! ## Inserting -/

inductive Padded (inserted : α → Prop) : List α → List α → Prop where
  | nil : Padded inserted [] []
  | keep {xs ys : List α} (x : α) (h : Padded inserted xs ys) : Padded inserted (x :: xs) (x :: ys)
  | insert {xs ys : List α} {y : α} (hy : inserted y) (h : Padded inserted xs ys) :
      Padded inserted xs (y :: ys)

namespace Padded

variable {inserted : α → Prop} {xs ys : List α}

theorem subset (h : Padded inserted xs ys) : xs ⊆ ys := by
  induction h with
  | nil => exact List.Subset.refl []
  | keep x _ ih => exact List.cons_subset_cons x ih
  | insert _ _ ih => exact List.Subset.trans ih (List.subset_cons_self _ _)

theorem filterMap {f : α → Option β} {inserted' : β → Prop} (h : Padded inserted xs ys)
    (hf : ∀ y, inserted y → ∀ z ∈ f y, inserted' z) :
    Padded inserted' (xs.filterMap f) (ys.filterMap f) := by
  induction h with
  | nil => exact .nil
  | keep x _ ih =>
    rw [List.filterMap_cons, List.filterMap_cons]
    cases f x with
    | none => exact ih
    | some z => exact .keep z ih
  | @insert xs ys y hy _ ih =>
    rw [List.filterMap_cons]
    cases hz : f y with
    | none => exact ih
    | some z => exact .insert (hf y hy z hz) ih

end Padded

theorem run_of_padded {judge : α → Verdict ε β} {xs ys : List α}
    (h : Padded (fun x => judge x = .skip) xs ys) : run judge ys = run judge xs := by
  induction h with
  | nil => rfl
  | keep x _ ih =>
    unfold run
    rw [ih]
  | insert hy _ ih =>
    rw [run, hy]
    exact ih

end Sieve
