import Mathlib.Data.List.Lex
import Mathlib.Data.List.Sort

/-!
# Sorting texts by their UTF-16 code units

The default order of JavaScript compares two texts code unit by code unit, which is not the order of their
characters: a character outside the basic plane starts with a surrogate, and stands before the last
characters of that plane. The units determine the text, so this is a linear order, and sorting a list
forgets the order of its texts and nothing else.
-/

namespace TextSort

/-- The code units of a character: one in the basic plane, a surrogate pair outside it. -/
def charUnits (c : Char) : List ℕ :=
  if c.toNat < 0x10000 then [c.toNat]
  else [0xd800 + (c.toNat - 0x10000) / 0x400, 0xdc00 + (c.toNat - 0x10000) % 0x400]

def codeUnits (text : String) : List ℕ := text.toList.flatMap charUnits

/-- Sort texts as `texts.sort()` does. -/
def sort (texts : List String) : List String :=
  texts.insertionSort fun a b => codeUnits a ≤ codeUnits b

theorem toNat_valid (c : Char) : c.toNat < 0xd800 ∨ 0xdfff < c.toNat ∧ c.toNat < 0x110000 := c.valid

theorem charUnits_ne_nil (c : Char) : charUnits c ≠ [] := by
  unfold charUnits
  split <;> simp

theorem charUnits_append_inj {c c' : Char} {units units' : List ℕ}
    (h : charUnits c ++ units = charUnits c' ++ units') : c = c' ∧ units = units' := by
  have hc := toNat_valid c
  have hc' := toNat_valid c'
  suffices hn : c.toNat = c'.toNat by
    obtain rfl : c = c' := Char.toNat_inj.mp hn
    exact ⟨rfl, List.append_cancel_left h⟩
  unfold charUnits at h
  split at h <;> split at h <;>
    simp only [List.cons_append, List.nil_append, List.cons.injEq] at h <;> omega

theorem codeUnits_injective : Function.Injective codeUnits := by
  intro text text' h
  apply String.toList_inj.mp
  unfold codeUnits at h
  generalize text.toList = cs at h
  generalize text'.toList = cs' at h
  induction cs generalizing cs' with
  | nil =>
    cases cs' with
    | nil => rfl
    | cons c' cs' => exact absurd (List.append_eq_nil_iff.mp h.symm).1 (charUnits_ne_nil c')
  | cons c cs ih =>
    cases cs' with
    | nil => exact absurd (List.append_eq_nil_iff.mp h).1 (charUnits_ne_nil c)
    | cons c' cs' =>
      obtain ⟨rfl, hr⟩ := charUnits_append_inj h
      rw [ih cs' hr]

theorem sort_perm (texts : List String) : (sort texts).Perm texts := List.perm_insertionSort _ texts

theorem mem_sort {texts : List String} {text : String} : text ∈ sort texts ↔ text ∈ texts :=
  (sort_perm texts).mem_iff

theorem sort_eq_sort_iff {texts texts' : List String} :
    sort texts = sort texts' ↔ texts.Perm texts' := by
  constructor
  · intro h
    exact (sort_perm texts).symm.trans (h ▸ sort_perm texts')
  · intro h
    refine List.Perm.eq_of_pairwise ?_ (List.pairwise_insertionSort _ _)
      (List.pairwise_insertionSort _ _) ((sort_perm texts).trans (h.trans (sort_perm texts').symm))
    intro a b _ _ ha hb
    exact codeUnits_injective (le_antisymm ha hb)

end TextSort
