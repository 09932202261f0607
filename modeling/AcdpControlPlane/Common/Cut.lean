import Mathlib.Data.List.Basic
import Mathlib.Data.List.TakeWhile

/-!
# Cutting a list

What a hand-written parser does with a text: cut it in two at the first or the last separator, take off
a suffix, and take off blanks at both ends. Each cut is characterized by how the text is put together.
-/

namespace Cut

open List

universe u

variable {α : Type u}

section Separator

variable [DecidableEq α] {sep : α} {xs before after suffix : List α}

/-- The parts before and after the first separator. -/
def atFirst (sep : α) : List α → Option (List α × List α)
  | [] => none
  | x :: xs => if x = sep then some ([], xs) else (atFirst sep xs).map fun cut => (x :: cut.1, cut.2)

/-- The parts before and after the last separator. -/
def atLast (sep : α) : List α → Option (List α × List α)
  | [] => none
  | x :: xs =>
    match atLast sep xs with
    | some cut => some (x :: cut.1, cut.2)
    | none => if x = sep then some ([], xs) else none

def suffix? (suffix xs : List α) : Option (List α) :=
  if suffix.isSuffixOf xs then some (xs.take (xs.length - suffix.length)) else none

theorem atFirst_eq_some_iff :
    atFirst sep xs = some (before, after) ↔ xs = before ++ sep :: after ∧ sep ∉ before := by
  induction xs generalizing before with
  | nil => simp [atFirst]
  | cons x xs ih =>
    by_cases hx : x = sep
    · subst hx
      cases before with
      | nil => simp [atFirst, eq_comm]
      | cons y before =>
        refine iff_of_false (by simp [atFirst]) ?_
        rintro ⟨heq, hf⟩
        exact hf (mem_cons.mpr (Or.inl (cons.inj heq).1))
    · cases before with
      | nil => simp [atFirst, hx]
      | cons y before =>
        simp only [atFirst, hx, if_false, Option.map_eq_some_iff, Prod.mk.injEq, cons.injEq,
          cons_append, mem_cons, not_or]
        constructor
        · rintro ⟨⟨before', after'⟩, hc, ⟨rfl, rfl⟩, rfl⟩
          obtain ⟨rfl, hf⟩ := ih.mp hc
          exact ⟨⟨rfl, rfl⟩, Ne.symm hx, hf⟩
        · rintro ⟨⟨rfl, rfl⟩, -, hf⟩
          exact ⟨(before, after), ih.mpr ⟨rfl, hf⟩, ⟨rfl, rfl⟩, rfl⟩

theorem atLast_eq_none_iff : atLast sep xs = none ↔ sep ∉ xs := by
  induction xs with
  | nil => simp [atLast]
  | cons x xs ih =>
    unfold atLast
    cases hc : atLast sep xs with
    | none =>
      have hxs := ih.mp hc
      by_cases hx : x = sep
      · simp [hx]
      · simp [hx, Ne.symm hx, hxs]
    | some cut =>
      have hxs : sep ∈ xs := by
        by_contra hf
        rw [ih.mpr hf] at hc
        cases hc
      simp [hxs]

theorem atLast_eq_some_iff :
    atLast sep xs = some (before, after) ↔ xs = before ++ sep :: after ∧ sep ∉ after := by
  induction xs generalizing before after with
  | nil => simp [atLast]
  | cons x xs ih =>
    unfold atLast
    cases hc : atLast sep xs with
    | none =>
      -- the separator can only be the head
      have hxs := atLast_eq_none_iff.mp hc
      cases before with
      | nil =>
        by_cases hx : x = sep
        · subst hx
          simp only [if_true, Option.some.injEq, Prod.mk.injEq, true_and, nil_append,
            cons.injEq]
          exact ⟨fun h => ⟨h, h ▸ hxs⟩, fun h => h.1⟩
        · simp [hx]
      | cons y before =>
        refine iff_of_false ?_ ?_
        · by_cases hx : x = sep <;> simp [hx]
        · rintro ⟨heq, -⟩
          rw [(cons.inj heq).2] at hxs
          simp at hxs
    | some cut =>
      obtain ⟨rfl, hf⟩ := ih.mp hc
      cases before with
      | nil =>
        refine iff_of_false (by simp) ?_
        rintro ⟨heq, ha⟩
        rw [← (cons.inj heq).2] at ha
        simp at ha
      | cons y before =>
        rw [cons_append, cons.injEq, Option.some.injEq, Prod.mk.injEq, cons.injEq, and_assoc,
          and_assoc]
        refine and_congr_right fun _ => ?_
        have hr := @ih before after
        rw [hc, Option.some.injEq, Prod.mk.injEq] at hr
        exact hr

theorem suffix?_eq_some_iff : suffix? suffix xs = some before ↔ xs = before ++ suffix := by
  unfold suffix?
  constructor
  · intro h
    split at h
    · next hs =>
      cases h
      obtain ⟨rest, rfl⟩ := isSuffixOf_iff_suffix.mp hs
      simp
    · cases h
  · rintro rfl
    simp

end Separator

/-! ## Blanks -/

section Blanks

variable (blank : α → Bool)

def trim (xs : List α) : List α := ((xs.dropWhile blank).reverse.dropWhile blank).reverse

def Trimmed (xs : List α) : Prop :=
  (∀ x ∈ xs.head?, blank x = false) ∧ ∀ x ∈ xs.getLast?, blank x = false

instance (xs : List α) : Decidable (Trimmed blank xs) := inferInstanceAs (Decidable (_ ∧ _))

variable {blank} {xs left right : List α}

theorem dropWhile_append_of_head (hl : ∀ x ∈ left, blank x = true)
    (hh : ∀ x ∈ xs.head?, blank x = false) : (left ++ xs).dropWhile blank = xs := by
  induction left with
  | nil =>
    cases xs with
    | nil => rfl
    | cons x xs => simp [hh x rfl]
  | cons y left ih =>
    rw [cons_append, dropWhile_cons, if_pos (hl y mem_cons_self)]
    exact ih fun x hx => hl x (mem_cons_of_mem _ hx)

theorem trim_pad (hxs : Trimmed blank xs) (hne : xs ≠ []) (hleft : ∀ x ∈ left, blank x = true)
    (hrgt : ∀ x ∈ right, blank x = true) : trim blank (left ++ xs ++ right) = xs := by
  unfold trim
  have hhead : ∀ x ∈ (xs ++ right).head?, blank x = false := by
    intro x hx
    rw [head?_append_of_ne_nil _ hne] at hx
    exact hxs.1 x hx
  rw [append_assoc, dropWhile_append_of_head hleft hhead, reverse_append,
    dropWhile_append_of_head, reverse_reverse]
  · simpa using hrgt
  · intro x hx
    rw [head?_reverse] at hx
    exact hxs.2 x hx

theorem trim_of_trimmed (hx : Trimmed blank xs) : trim blank xs = xs := by
  rcases eq_or_ne xs [] with rfl | hn
  · rfl
  · have hp := @trim_pad α blank xs [] [] hx hn (forall_mem_nil _) (forall_mem_nil _)
    simpa using hp

theorem blank_of_trim_eq_nil (h : trim blank xs = []) : ∀ x ∈ xs, blank x = true := by
  unfold trim at h
  rw [reverse_eq_nil_iff, dropWhile_eq_nil_iff] at h
  -- what is left of the first trimming would start with no blank
  have hni : xs.dropWhile blank = [] := by
    by_contra hn
    have hh := head_dropWhile_not blank hn
    rw [h _ (mem_reverse.mpr (head_mem hn))] at hh
    cases hh
  exact dropWhile_eq_nil_iff.mp hni

theorem trimmed_of_forall (hxs : ∀ x ∈ xs, blank x = false) : Trimmed blank xs :=
  ⟨fun x hx => hxs x (mem_of_mem_head? hx), fun x hx => hxs x (mem_of_getLast? hx)⟩

theorem Trimmed.append {ys : List α} (hxs : Trimmed blank xs) (hys : Trimmed blank ys) (hne : xs ≠ [])
    (hne' : ys ≠ []) (middle : List α) : Trimmed blank (xs ++ middle ++ ys) := by
  refine ⟨?_, ?_⟩
  · rw [append_assoc, head?_append_of_ne_nil _ hne]
    exact hxs.1
  · rw [getLast?_append_of_ne_nil _ hne']
    exact hys.2

end Blanks

end Cut
