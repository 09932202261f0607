import AcdpControlPlane.Merkle.Tree

/-!
# One level of a Merkle tree

`pairUp` joins neighbouring hashes and promotes an odd last one. The trees of RFC 6962 are built
by it: the root, the audit paths and the consistency proofs of `D` are those of `pairUp h D`, up
to what the lowest level adds.
-/

namespace Merkle

open List

variable {H : Type*} (h : Hasher H)

/-- The level above `D`: neighbours joined, an odd last hash promoted. -/
def pairUp : List H → List H
  | a :: b :: D => h.node a b :: pairUp D
  | D => D

@[simp] theorem pairUp_nil : pairUp h [] = [] := rfl

@[simp] theorem pairUp_singleton (d : H) : pairUp h [d] = [d] := rfl

@[simp] theorem pairUp_cons_cons (a b : H) (D : List H) :
    pairUp h (a :: b :: D) = h.node a b :: pairUp h D := rfl

@[simp] theorem length_pairUp (D : List H) : (pairUp h D).length = (D.length + 1) / 2 := by
  fun_induction pairUp h D with
  | case1 a b D ih =>
    simp only [length_cons, ih]
    omega
  | case2 D hD =>
    rcases D with _ | ⟨a, _ | ⟨b, D⟩⟩
    · simp
    · simp
    · exact (hD a b D rfl).elim

theorem pairUp_take (k : ℕ) (D : List H) : pairUp h (D.take (2 * k)) = (pairUp h D).take k := by
  induction k generalizing D with
  | zero => simp
  | succ k ih =>
    rcases D with _ | ⟨a, _ | ⟨b, D⟩⟩
    · simp
    · simp [Nat.mul_succ]
    · simp [Nat.mul_succ, ih]

theorem pairUp_drop (k : ℕ) (D : List H) : pairUp h (D.drop (2 * k)) = (pairUp h D).drop k := by
  induction k generalizing D with
  | zero => simp
  | succ k ih =>
    rcases D with _ | ⟨a, _ | ⟨b, D⟩⟩
    · simp
    · simp [Nat.mul_succ]
    · simp [Nat.mul_succ, ih]

variable {j : ℕ} {D : List H} {a : H}

theorem pairUp_take_append (hj : 2 * j ≤ D.length) (E : List H) :
    pairUp h (D.take (2 * j) ++ E) = (pairUp h D).take j ++ pairUp h E := by
  induction j generalizing D with
  | zero => simp
  | succ j ih =>
    rcases D with _ | ⟨a, _ | ⟨b, D⟩⟩
    · simp at hj
    · simp only [length_singleton] at hj
      omega
    · simp [Nat.mul_succ, ih (D := D) (by simp only [length_cons] at hj; omega)]

theorem getElem?_pairUp (j : ℕ) (D : List H) :
    (pairUp h D)[j]? = (pairUp h (D.drop (2 * j))).head? := by
  rw [pairUp_drop, head?_drop]

theorem getElem?_pairUp_node {b : H} (ha : D[2 * j]? = some a)
    (hb : D[2 * j + 1]? = some b) : (pairUp h D)[j]? = some (h.node a b) := by
  have hdrop : D.drop (2 * j) = a :: b :: D.drop (2 * j + 1 + 1) := by
    rw [drop_eq_getElem?_toList_append, ha, drop_eq_getElem?_toList_append, hb]
    rfl
  rw [getElem?_pairUp, hdrop, pairUp_cons_cons, head?_cons]

theorem getElem?_pairUp_last (ha : D[2 * j]? = some a)
    (hlen : D.length = 2 * j + 1) : (pairUp h D)[j]? = some a := by
  have hdrop : D.drop (2 * j) = [a] := by
    rw [drop_eq_getElem?_toList_append, ha, drop_of_length_le (by omega)]
    rfl
  rw [getElem?_pairUp, hdrop, pairUp_singleton, head?_cons]

/-! ## The split seen from the level above -/

section Split

variable {D : List H}

theorem splitPoint_pairUp (hD : 2 < D.length) :
    splitPoint D.length = 2 * splitPoint (pairUp h D).length := by
  rw [length_pairUp, splitPoint_half hD]

theorem pairUp_take_splitPoint (hD : 2 < D.length) :
    pairUp h (D.take (splitPoint D.length)) =
      (pairUp h D).take (splitPoint (pairUp h D).length) := by
  rw [splitPoint_pairUp h hD, pairUp_take]

theorem pairUp_drop_splitPoint (hD : 2 < D.length) :
    pairUp h (D.drop (splitPoint D.length)) =
      (pairUp h D).drop (splitPoint (pairUp h D).length) := by
  rw [splitPoint_pairUp h hD, pairUp_drop]

end Split

theorem mth_pairUp (D : List H) : mth h (pairUp h D) = mth h D := by
  induction hn : D.length using Nat.strong_induction_on generalizing D with
  | _ n ih =>
    rcases Nat.lt_trichotomy D.length 2 with hl | heq | hg
    · rcases D with _ | ⟨a, _ | ⟨b, D⟩⟩
      · rfl
      · rfl
      · simp only [length_cons] at hl
        omega
    · obtain ⟨a, b, rfl⟩ := length_eq_two.mp heq
      rw [mth_split h (D := [a, b]) (by simp)]
      simp
    · have hl := splitPoint_lt (n := D.length) (by omega)
      have hp := splitPoint_pos D.length
      rw [mth_split h (D := D) (by omega), mth_split h (D := pairUp h D) (by simp; omega),
        ← pairUp_take_splitPoint h hg, ← pairUp_drop_splitPoint h hg,
        ih _ (by simp; omega) _ rfl, ih _ (by simp; omega) _ rfl]

/-! ## Audit paths -/

/-- The neighbour of node `i`, if it has one. -/
def sibling (i : ℕ) (D : List H) : List H :=
  if i % 2 = 1 then (D[i - 1]?).toList else (D[i + 1]?).toList

theorem auditPath_pairUp {i : ℕ} (hi : i < D.length) (hD : 2 ≤ D.length) :
    auditPath h i D = sibling i D ++ auditPath h (i / 2) (pairUp h D) := by
  induction hn : D.length using Nat.strong_induction_on generalizing D i with
  | _ n ih =>
    rcases Nat.lt_or_eq_of_le hD with hg | heq
    · have hlt := splitPoint_lt hD
      have hpo := splitPoint_pos D.length
      have hh := splitPoint_pairUp h hg
      have hl : 2 ≤ (pairUp h D).length := by simp; omega
      by_cases hik : i < splitPoint D.length
      · have hs : sibling i (D.take (splitPoint D.length)) = sibling i D := by
          unfold sibling
          split
          · rw [getElem?_take_of_lt (by omega)]
          · rw [getElem?_take_of_lt (by omega)]
        rw [auditPath_left h hD hik, auditPath_left h hl (by omega),
          ih _ (by simp; omega) (by simp; omega) (by simp; omega) rfl, hs,
          pairUp_take_splitPoint h hg, ← mth_pairUp h (D.drop _),
          pairUp_drop_splitPoint h hg, append_assoc]
      · have hs : sibling (i - splitPoint D.length) (D.drop (splitPoint D.length)) =
            sibling i D := by
          unfold sibling
          rw [getElem?_drop, getElem?_drop]
          have hp : (i - splitPoint D.length) % 2 = i % 2 := by omega
          rw [hp]
          split
          · congr 2
            omega
          · congr 2
            omega
        rw [auditPath_right h hD (by omega), auditPath_right h hl (by omega),
          ← mth_pairUp h (D.take _), pairUp_take_splitPoint h hg]
        by_cases ho : (D.drop (splitPoint D.length)).length = 1
        · obtain ⟨d, hd⟩ := length_eq_one_iff.mp ho
          have hz : i - splitPoint D.length = 0 := by simp at ho; omega
          have hni : sibling i D = [] := by
            rw [← hs, hd, hz]
            rfl
          rw [auditPath_of_length_le_one h _ (by omega), hni,
            ← pairUp_drop_splitPoint h hg, hd, pairUp_singleton,
            auditPath_of_length_le_one h _ (by simp)]
          rfl
        · rw [ih _ (by simp; omega) (by simp; omega) (by simp at ho ⊢; omega) rfl, hs,
            pairUp_drop_splitPoint h hg, append_assoc]
          congr 4
          omega
    · obtain ⟨a, b, rfl⟩ := length_eq_two.mp heq.symm
      have hi2 : i = 0 ∨ i = 1 := by simp at hi; omega
      rcases hi2 with rfl | rfl
      · rw [auditPath_left h (by simp) (by simp)]
        simp [auditPath_of_length_le_one, sibling]
      · rw [auditPath_right h (by simp) (by simp)]
        simp [auditPath_of_length_le_one, sibling]

/-! ## Consistency proofs -/

theorem subproof_of_even {m : ℕ} (b : Bool) (hm : m % 2 = 0) (hp : 0 < m)
    (hle : m ≤ D.length) : subproof h m D b = subproof h (m / 2) (pairUp h D) b := by
  induction hn : D.length using Nat.strong_induction_on generalizing D m b with
  | _ n ih =>
    rcases Nat.lt_or_eq_of_le hle with hlt | heq
    · have hg : 2 < D.length := by omega
      have hsp := splitPoint_lt (n := D.length) (by omega)
      have hs := splitPoint_pos D.length
      have hh := splitPoint_pairUp h hg
      have hl : 2 ≤ (pairUp h D).length := by simp; omega
      by_cases hmk : m ≤ splitPoint D.length
      · rw [subproof_left h b (by omega) hmk, subproof_left h b hl (by omega),
          ih _ (by simp; omega) b hm hp (by simp; omega) rfl,
          pairUp_take_splitPoint h hg, ← mth_pairUp h (D.drop _),
          pairUp_drop_splitPoint h hg]
      · rw [subproof_right h b (by omega) hlt (by omega),
          subproof_right h b hl (by simp; omega) (by omega),
          ih _ (by simp; omega) false (by omega) (by omega) (by simp; omega) rfl,
          pairUp_drop_splitPoint h hg, ← mth_pairUp h (D.take _),
          pairUp_take_splitPoint h hg]
        congr 3
        omega
    · rw [subproof_of_length_le h b (by omega), subproof_of_length_le h b (by simp; omega),
        mth_pairUp]

theorem subproof_of_odd {m : ℕ} (b : Bool) (hm : m % 2 = 1) (hl : m < D.length) :
    subproof h m D b =
      (if b = true ∧ m = 1 then [] else (D[m - 1]?).toList) ++ auditPath h (m - 1) D := by
  induction hn : D.length using Nat.strong_induction_on generalizing D m b with
  | _ n ih =>
    have hD : 2 ≤ D.length := by omega
    have hsp := splitPoint_lt hD
    have hs := splitPoint_pos D.length
    by_cases hmk : m ≤ splitPoint D.length
    · rw [subproof_left h b hD hmk, auditPath_left h hD (by omega), ← append_assoc]
      rcases Nat.lt_or_eq_of_le hmk with hl' | heq
      · rw [ih _ (by simp; omega) b hm (by simp; omega) rfl, getElem?_take_of_lt (by omega)]
      · -- an odd power of two is one: the old tree is a single leaf
        have ho : splitPoint D.length = 1 := by
          by_contra hne
          have hg : 2 < D.length := by
            by_contra hle
            have h2 : D.length = 2 := by omega
            rw [h2] at hne
            exact hne splitPoint_two
          have := splitPoint_pairUp h hg
          omega
        rw [subproof_of_length_le h b (by simp; omega),
          auditPath_of_length_le_one h _ (by simp; omega)]
        have hm1 : m = 1 := by omega
        subst hm1
        rw [ho]
        obtain ⟨d, D', rfl⟩ := exists_cons_of_length_pos (l := D) (by omega)
        cases b <;> simp
    · have hp : splitPoint D.length % 2 = 0 ∨ splitPoint D.length = 1 := by
        by_cases hg : 2 < D.length
        · have := splitPoint_pairUp h hg
          omega
        · omega
      rw [subproof_right h b hD hl (by omega), auditPath_right h hD (by omega),
        ← append_assoc]
      rcases hp with hev | ho
      · rw [ih _ (by simp; omega) false (by omega) (by simp; omega) rfl, getElem?_drop,
          if_neg (by simp), if_neg (by omega),
          show splitPoint D.length + (m - splitPoint D.length - 1) = m - 1 by omega,
          show m - splitPoint D.length - 1 = m - 1 - splitPoint D.length by omega]
      · have hD2 : D.length = 2 := by
          have := le_two_mul_splitPoint hD
          omega
        omega

/-! ## Interior nodes -/

theorem mem_interior_of_siblings {b : H} (ha : D[2 * j]? = some a)
    (hb : D[2 * j + 1]? = some b) : (a, b) ∈ interior h D := by
  induction hn : D.length using Nat.strong_induction_on generalizing D j with
  | _ n ih =>
    have hj : 2 * j + 1 < D.length := (List.getElem?_eq_some_iff.mp hb).1
    have hD : 2 ≤ D.length := by omega
    have hsp := splitPoint_lt hD
    have hs := splitPoint_pos D.length
    rw [interior_split h hD]
    rcases Nat.lt_or_eq_of_le hD with hg | heq
    · have hh := splitPoint_pairUp h hg
      refine mem_cons_of_mem _ (mem_append.mpr ?_)
      by_cases hjk : 2 * j < splitPoint D.length
      · refine Or.inl (ih _ (by simp; omega) (j := j) ?_ ?_ rfl)
        · rw [getElem?_take_of_lt (by omega)]
          exact ha
        · rw [getElem?_take_of_lt (by omega)]
          exact hb
      · refine Or.inr (ih _ (by simp; omega) (j := j - splitPoint D.length / 2) ?_ ?_ rfl)
        · rw [getElem?_drop, ← ha]
          congr 1
          omega
        · rw [getElem?_drop, ← hb]
          congr 1
          omega
    · obtain ⟨x, y, rfl⟩ := length_eq_two.mp heq.symm
      have hj0 : j = 0 := by simp at hj; omega
      subst hj0
      simp at ha hb
      subst ha hb
      simp

theorem interior_pairUp_subset (D : List H) : interior h (pairUp h D) ⊆ interior h D := by
  induction hn : D.length using Nat.strong_induction_on generalizing D with
  | _ n ih =>
    by_cases hg : 2 < D.length
    · have hsp := splitPoint_lt (n := D.length) (by omega)
      have hs := splitPoint_pos D.length
      rw [interior_split h (D := D) (by omega),
        interior_split h (D := pairUp h D) (by simp; omega), ← pairUp_take_splitPoint h hg,
        ← pairUp_drop_splitPoint h hg, mth_pairUp, mth_pairUp]
      refine cons_subset_cons _ (append_subset.mpr ⟨?_, ?_⟩)
      · exact subset_append_of_subset_left _ (ih _ (by simp; omega) _ rfl)
      · exact subset_append_of_subset_right _ (ih _ (by simp; omega) _ rfl)
    · have hl : ¬ 2 ≤ (pairUp h D).length := by simp; omega
      rw [interior, dif_neg hl]
      exact nil_subset _

end Merkle
