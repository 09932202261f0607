import Mathlib.Data.List.Basic

/-!
# Lists that are joined by a separator

A record of several lists is written as one list, with a separator between its parts. It can be read back
if the separator does not occur in the parts: the first part ends at the first separator, and the parts of
any number are those of `List.splitOn`. Where parts may contain the separator, different records are
written alike.
-/

namespace Separated

open List

variable {α : Type*} {sep : α}

theorem append_cons_inj {xs xs' ys ys' : List α} (hx : sep ∉ xs) (hx' : sep ∉ xs')
    (h : xs ++ sep :: ys = xs' ++ sep :: ys') : xs = xs' ∧ ys = ys' := by
  induction xs generalizing xs' with
  | nil =>
    cases xs' with
    | nil => exact ⟨rfl, (cons.inj h).2⟩
    | cons x xs' =>
      -- the second record would start with the separator
      exact absurd (mem_cons.mpr (Or.inl (cons.inj h).1)) hx'
  | cons x xs ih =>
    cases xs' with
    | nil => exact absurd (mem_cons.mpr (Or.inl (cons.inj h).1.symm)) hx
    | cons x' xs' =>
      obtain ⟨rfl, ht⟩ := cons.inj h
      obtain ⟨rfl, rfl⟩ := ih (fun hm => hx (mem_cons_of_mem _ hm))
        (fun hm => hx' (mem_cons_of_mem _ hm)) ht
      exact ⟨rfl, rfl⟩

variable [BEq α]

theorem intercalate_inj [LawfulBEq α] {parts parts' : List (List α)} (hf : ∀ part ∈ parts, sep ∉ part)
    (hf' : ∀ part ∈ parts', sep ∉ part) (hp : parts ≠ []) (hp' : parts' ≠ [])
    (h : [sep].intercalate parts = [sep].intercalate parts') : parts = parts' := by
  rw [← splitOn_intercalate sep hf hp, h, splitOn_intercalate sep hf' hp']

theorem mem_of_mem_splitOn {xs part : List α} {x : α} (hp : part ∈ xs.splitOn sep)
    (hx : x ∈ part) : x ∈ xs := by
  induction xs generalizing part with
  | nil =>
    rw [splitOn_nil, mem_singleton] at hp
    exact hp ▸ hx
  | cons y xs ih =>
    unfold splitOn at hp ih
    rw [splitOnP_cons_eq_if_modifyHead] at hp
    split at hp
    · rcases mem_cons.mp hp with rfl | hp
      · exact absurd hx not_mem_nil
      · exact mem_cons_of_mem _ (ih hp hx)
    · -- the first part of the rest has `y` in front of it
      cases hr : xs.splitOnP (· == sep) with
      | nil =>
        rw [hr] at hp
        exact absurd hp not_mem_nil
      | cons first rest =>
        rw [hr] at hp ih
        rcases mem_cons.mp hp with rfl | hp
        · rcases mem_cons.mp hx with rfl | hx
          · exact mem_cons_self
          · exact mem_cons_of_mem _ (ih mem_cons_self hx)
        · exact mem_cons_of_mem _ (ih (mem_cons_of_mem _ hp) hx)

/-! ## Texts -/

def split (text : String) (sep : Char) : List String :=
  (text.toList.splitOn sep).map String.ofList

theorem mem_of_mem_split {text part : String} {sep c : Char} (hp : part ∈ split text sep)
    (hc : c ∈ part.toList) : c ∈ text.toList := by
  obtain ⟨cs, hcs, rfl⟩ := mem_map.mp hp
  rw [String.toList_ofList] at hc
  exact mem_of_mem_splitOn hcs hc

section Join

variable {glue : String} {sep c : Char} {parts parts' : List String}

theorem mem_of_mem_join (hg : glue.toList = [sep]) (hc : c ∈ (glue.intercalate parts).toList) :
    c = sep ∨ ∃ part ∈ parts, c ∈ part.toList := by
  rw [String.toList_intercalate, hg] at hc
  induction parts with
  | nil => exact absurd hc not_mem_nil
  | cons part parts ih =>
    cases parts with
    | nil => exact Or.inr ⟨part, mem_singleton_self _, by simpa using hc⟩
    | cons next parts =>
      rw [map_cons, map_cons, intercalate_cons_cons, mem_append, mem_append,
        mem_singleton] at hc
      rcases hc with (hc | hc) | hc
      · exact Or.inr ⟨part, mem_cons_self, hc⟩
      · exact Or.inl hc
      · rcases ih hc with hs | ⟨other, ho, hc⟩
        · exact Or.inl hs
        · exact Or.inr ⟨other, mem_cons_of_mem _ ho, hc⟩

theorem join_inj (hg : glue.toList = [sep]) (hf : ∀ part ∈ parts, sep ∉ part.toList)
    (hf' : ∀ part ∈ parts', sep ∉ part.toList) (hp : parts ≠ []) (hp' : parts' ≠ [])
    (h : glue.intercalate parts = glue.intercalate parts') : parts = parts' := by
  have hc := congrArg String.toList h
  rw [String.toList_intercalate, String.toList_intercalate, hg] at hc
  have hm : parts.map String.toList = parts'.map String.toList := by
    refine intercalate_inj ?_ ?_ (by simpa using hp) (by simpa using hp') hc
    · simpa using hf
    · simpa using hf'
  exact map_injective_iff.mpr (fun _ _ => String.toList_injective) hm

theorem join_ne_empty (hne : ∀ part ∈ parts, part ≠ "") (hpt : parts ≠ []) :
    glue.intercalate parts ≠ "" := by
  intro h
  have hc := congrArg String.toList h
  rw [String.toList_intercalate] at hc
  obtain ⟨part, parts, rfl⟩ := exists_cons_of_ne_nil hpt
  have hp : part.toList ≠ [] := fun hn =>
    hne part mem_cons_self (String.toList_eq_nil_iff.mp hn)
  cases parts with
  | nil => exact hp (by simpa using hc)
  | cons next parts =>
    rw [map_cons, map_cons, intercalate_cons_cons] at hc
    exact hp (append_eq_nil_iff.mp (append_eq_nil_iff.mp hc).1).1

theorem join_inj_of_ne_empty (hg : glue.toList = [sep])
    (hf : ∀ part ∈ parts, part ≠ "" ∧ sep ∉ part.toList)
    (hf' : ∀ part ∈ parts', part ≠ "" ∧ sep ∉ part.toList)
    (h : glue.intercalate parts = glue.intercalate parts') : parts = parts' := by
  by_cases hpt : parts = []
  · subst hpt
    by_contra hpt'
    exact join_ne_empty (fun part hp => (hf' part hp).1) (Ne.symm hpt') h.symm
  · by_cases hpt' : parts' = []
    · subst hpt'
      exact absurd h (join_ne_empty (fun part hp => (hf part hp).1) hpt)
    · exact join_inj hg (fun part hp => (hf part hp).2)
        (fun part hp => (hf' part hp).2) hpt hpt' h

/-! Where parts contain the separator, their segments are what can be read back. -/

theorem splitOn_intercalate_eq [LawfulBEq α] {lists : List (List α)} {sep : α}
    (hn : lists ≠ []) : ([sep].intercalate lists).splitOn sep = lists.flatMap (·.splitOn sep) := by
  induction lists with
  | nil => exact absurd rfl hn
  | cons first rest ih =>
    cases rest with
    | nil => simp
    | cons next rest =>
      have hj : [sep].intercalate (first :: next :: rest) =
          first ++ sep :: [sep].intercalate (next :: rest) := by
        rfl
      have hs : (first ++ sep :: [sep].intercalate (next :: rest)).splitOn sep =
          first.splitOn sep ++ ([sep].intercalate (next :: rest)).splitOn sep :=
        splitOnP_append_cons _ _ (by simp)
      rw [hj, hs, flatMap_cons, ih (cons_ne_nil _ _)]

theorem split_join (hg : glue.toList = [sep]) (hn : parts ≠ []) :
    split (glue.intercalate parts) sep = parts.flatMap (split · sep) := by
  unfold split
  rw [String.toList_intercalate, hg, splitOn_intercalate_eq (by simpa using hn), flatMap_map,
    map_flatMap]

theorem join_split (hg : glue.toList = [sep]) (text : String) :
    glue.intercalate (split text sep) = text := by
  apply String.toList_injective
  rw [String.toList_intercalate, hg]
  simp [split, map_map, Function.comp_def]

theorem join_eq_join_iff (hg : glue.toList = [sep]) (hn : parts ≠ []) (hn' : parts' ≠ []) :
    glue.intercalate parts = glue.intercalate parts' ↔
      parts.flatMap (split · sep) = parts'.flatMap (split · sep) := by
  rw [← split_join hg hn, ← split_join hg hn']
  constructor
  · intro h
    rw [h]
  · intro h
    rw [← join_split hg (glue.intercalate parts), h, join_split hg]

theorem flatMap_split_of_free (hf : ∀ part ∈ parts, sep ∉ part.toList) :
    parts.flatMap (split · sep) = parts := by
  have hs : ∀ part ∈ parts, split part sep = [part] := by
    intro part hp
    have hj : [sep].intercalate [part.toList] = part.toList := by simp
    unfold split
    rw [← hj, splitOn_intercalate sep (by simpa using hf part hp) (cons_ne_nil _ _)]
    simp
  rw [flatMap_def, map_congr_left hs, ← flatMap_def]
  simp

theorem split_ne_nil (text : String) (sep : Char) : split text sep ≠ [] := by
  unfold split
  simp

theorem eq_of_flatMap_split_eq (hg : glue.toList = [sep]) (hl : parts'.length = parts.length)
    (h : parts.flatMap (split · sep) = parts') : parts = parts' := by
  -- every part has a segment at least
  have hle : ∀ parts : List String, parts.length ≤ (parts.flatMap (split · sep)).length := by
    intro parts
    induction parts with
    | nil => exact Nat.le_refl _
    | cons part parts ih =>
      have := length_pos_iff.mpr (split_ne_nil part sep)
      rw [flatMap_cons, length_append, length_cons]
      omega
  induction parts generalizing parts' with
  | nil => exact h
  | cons part parts ih =>
    rw [flatMap_cons] at h
    have hp := length_pos_iff.mpr (split_ne_nil part sep)
    have hsu := congrArg length h
    rw [length_append, hl, length_cons] at hsu
    have hpt := hle parts
    obtain ⟨segment, hs⟩ := length_eq_one_iff.mp (show (split part sep).length = 1 by omega)
    have hw : part = segment := by
      have := join_split hg part
      rw [hs] at this
      simpa using this.symm
    rw [hs] at h
    rw [← h, hw, singleton_append, ← ih (by omega) rfl]

end Join

end Separated
