import Mathlib.Data.Nat.Log
import Mathlib.Data.List.Basic
import Mathlib.Tactic.Ring
import Mathlib.Tactic.Linarith

/-!
# Merkle trees of RFC 6962

The tree over a list of leaf hashes, split at the largest power of two below its length, with its
audit paths and consistency proofs as RFC 6962 defines them by recursion from the root.
-/

namespace Merkle

variable {H : Type*}

/-- An interior-node hash, and the root of the empty tree. -/
structure Hasher (H : Type*) where
  node : H → H → H
  empty : H

/-! ## The split point -/

/-- The largest power of two strictly below `n`, for `2 ≤ n`. -/
def splitPoint (n : ℕ) : ℕ := 2 ^ Nat.log 2 (n - 1)

theorem splitPoint_pos (n : ℕ) : 0 < splitPoint n := Nat.two_pow_pos _

theorem splitPoint_lt {n : ℕ} (hn : 2 ≤ n) : splitPoint n < n := by
  have := Nat.pow_log_le_self 2 (x := n - 1) (by omega)
  unfold splitPoint
  omega

theorem le_two_mul_splitPoint {n : ℕ} (hn : 2 ≤ n) : n ≤ 2 * splitPoint n := by
  have := Nat.lt_pow_succ_log_self (b := 2) (by omega) (n - 1)
  unfold splitPoint
  omega

theorem splitPoint_eq {n j : ℕ} (hlt : 2 ^ j < n) (hle : n ≤ 2 ^ (j + 1)) : splitPoint n = 2 ^ j := by
  have hl : Nat.log 2 (n - 1) = j := by
    rw [Nat.log_eq_iff (Or.inr ⟨by omega, by have := Nat.two_pow_pos j; omega⟩)]
    exact ⟨by omega, by omega⟩
  rw [splitPoint, hl]

@[simp] theorem splitPoint_two : splitPoint 2 = 1 := by decide

theorem splitPoint_half {n : ℕ} (hn : 2 < n) : splitPoint n = 2 * splitPoint ((n + 1) / 2) := by
  obtain ⟨j, hj⟩ : ∃ j, splitPoint ((n + 1) / 2) = 2 ^ j := ⟨_, rfl⟩
  have hlt := splitPoint_lt (n := (n + 1) / 2) (by omega)
  have hl := le_two_mul_splitPoint (n := (n + 1) / 2) (by omega)
  rw [hj, ← pow_succ']
  refine splitPoint_eq ?_ ?_
  · omega
  · omega

/-! ## Tree heads, audit paths and consistency proofs -/

/-- MTH: the root of the tree over the leaf hashes `D`. -/
def mth (h : Hasher H) (D : List H) : H :=
  if hD : 2 ≤ D.length then
    have := splitPoint_lt hD
    have := splitPoint_pos D.length
    h.node (mth h (D.take (splitPoint D.length))) (mth h (D.drop (splitPoint D.length)))
  else D.headD h.empty
termination_by D.length
decreasing_by all_goals grind

/-- PATH: the siblings on the way from leaf `i` to the root, the lowest first. -/
def auditPath (h : Hasher H) (i : ℕ) (D : List H) : List H :=
  if hD : 2 ≤ D.length then
    have := splitPoint_lt hD
    have := splitPoint_pos D.length
    if i < splitPoint D.length then
      auditPath h i (D.take (splitPoint D.length)) ++ [mth h (D.drop (splitPoint D.length))]
    else
      auditPath h (i - splitPoint D.length) (D.drop (splitPoint D.length)) ++
        [mth h (D.take (splitPoint D.length))]
  else []
termination_by D.length
decreasing_by all_goals grind

/-- SUBPROOF: `b` holds while the old tree is a whole left subtree, whose root the verifier
already has. -/
def subproof (h : Hasher H) (m : ℕ) (D : List H) (b : Bool) : List H :=
  if hD : m < D.length ∧ 2 ≤ D.length then
    have := splitPoint_lt hD.2
    have := splitPoint_pos D.length
    if m ≤ splitPoint D.length then
      subproof h m (D.take (splitPoint D.length)) b ++ [mth h (D.drop (splitPoint D.length))]
    else
      subproof h (m - splitPoint D.length) (D.drop (splitPoint D.length)) false ++
        [mth h (D.take (splitPoint D.length))]
  else if b then [] else [mth h D]
termination_by D.length
decreasing_by all_goals grind

/-- PROOF: from the tree over the first `m` leaves to the whole tree; empty for `m = 0`. -/
def consistencyProof (h : Hasher H) (m : ℕ) (D : List H) : List H :=
  if m = 0 then [] else subproof h m D true

/-- The pairs hashed at the interior nodes of the tree. -/
def interior (h : Hasher H) (D : List H) : List (H × H) :=
  if hD : 2 ≤ D.length then
    have := splitPoint_lt hD
    have := splitPoint_pos D.length
    (mth h (D.take (splitPoint D.length)), mth h (D.drop (splitPoint D.length))) ::
      (interior h (D.take (splitPoint D.length)) ++ interior h (D.drop (splitPoint D.length)))
  else []
termination_by D.length
decreasing_by all_goals grind

section Unfolding

variable (h : Hasher H) {D : List H}

@[simp] theorem mth_nil : mth h [] = h.empty := by rw [mth]; simp

@[simp] theorem mth_singleton (d : H) : mth h [d] = d := by rw [mth]; simp

theorem mth_split (hD : 2 ≤ D.length) :
    mth h D = h.node (mth h (D.take (splitPoint D.length)))
      (mth h (D.drop (splitPoint D.length))) := by
  rw [mth, dif_pos hD]

theorem auditPath_of_length_le_one (i : ℕ) (hD : D.length ≤ 1) : auditPath h i D = [] := by
  rw [auditPath, dif_neg (by omega)]

theorem auditPath_left {i : ℕ} (hD : 2 ≤ D.length) (hi : i < splitPoint D.length) :
    auditPath h i D = auditPath h i (D.take (splitPoint D.length)) ++
      [mth h (D.drop (splitPoint D.length))] := by
  rw [auditPath, dif_pos hD, if_pos hi]

theorem auditPath_right {i : ℕ} (hD : 2 ≤ D.length) (hi : splitPoint D.length ≤ i) :
    auditPath h i D = auditPath h (i - splitPoint D.length) (D.drop (splitPoint D.length)) ++
      [mth h (D.take (splitPoint D.length))] := by
  rw [auditPath, dif_pos hD, if_neg (by omega)]

theorem subproof_of_length_le {m : ℕ} (b : Bool) (hm : D.length ≤ m) :
    subproof h m D b = if b then [] else [mth h D] := by
  rw [subproof, dif_neg (by omega)]

theorem subproof_left {m : ℕ} (b : Bool) (hD : 2 ≤ D.length) (hm : m ≤ splitPoint D.length) :
    subproof h m D b = subproof h m (D.take (splitPoint D.length)) b ++
      [mth h (D.drop (splitPoint D.length))] := by
  have := splitPoint_lt hD
  rw [subproof, dif_pos ⟨by omega, hD⟩, if_pos hm]

theorem subproof_right {m : ℕ} (b : Bool) (hD : 2 ≤ D.length) (hl : m < D.length)
    (hm : splitPoint D.length < m) :
    subproof h m D b = subproof h (m - splitPoint D.length) (D.drop (splitPoint D.length)) false ++
      [mth h (D.take (splitPoint D.length))] := by
  rw [subproof, dif_pos ⟨hl, hD⟩, if_neg (by omega)]

theorem interior_split (hD : 2 ≤ D.length) :
    interior h D =
      (mth h (D.take (splitPoint D.length)), mth h (D.drop (splitPoint D.length))) ::
        (interior h (D.take (splitPoint D.length)) ++
          interior h (D.drop (splitPoint D.length))) := by
  rw [interior, dif_pos hD]

end Unfolding

end Merkle
