import Mathlib.Data.List.Basic

/-!
# First come, first stored

Items arrive one after the other. An item may have a key; it is stored unless an earlier item had the
same key, and then it is skipped. An item without a key is refused.
-/

namespace Dedup

inductive Answer where
  | refused
  | skipped
  | stored
deriving DecidableEq, Repr

variable {Item Key : Type} [DecidableEq Key] (key : Item → Option Key)

def answer (before : List Item) (item : Item) : Answer :=
  match key item with
  | none => .refused
  | some k => if some k ∈ before.map key then .skipped else .stored

def answers (before : List Item) : List Item → List (Item × Answer)
  | [] => []
  | item :: items => (item, answer key before item) :: answers (before ++ [item]) items

variable {key}

theorem answer_eq_iff {before before' : List Item} {item : Item} :
    answer key before item = answer key before' item ↔
      ∀ k, key item = some k → (some k ∈ before.map key ↔ some k ∈ before'.map key) := by
  unfold answer
  cases key item with
  | none => simp
  | some k =>
    by_cases h : some k ∈ before.map key <;> by_cases h' : some k ∈ before'.map key <;>
      simp [h, h', -List.mem_map]

theorem filter_answers_eq_iff (key : Item → Option Key) (mine : Item → Bool) (before items : List Item) :
    (answers key before items).filter (mine ·.1) =
        answers key (before.filter mine) (items.filter mine) ↔
      ∀ earlier item later, items = earlier ++ item :: later → mine item = true →
        ∀ k, key item = some k → some k ∈ (before ++ earlier).map key →
          some k ∈ ((before ++ earlier).filter mine).map key := by
  induction items generalizing before with
  | nil => simp [answers]
  | cons first items ih =>
    -- an item is the first one, or it is one of the others
    have hs : (∀ earlier item later, first :: items = earlier ++ item :: later →
        mine item = true → ∀ k, key item = some k → some k ∈ (before ++ earlier).map key →
          some k ∈ ((before ++ earlier).filter mine).map key) ↔
        (mine first = true → ∀ k, key first = some k → some k ∈ before.map key →
          some k ∈ (before.filter mine).map key) ∧
        ∀ earlier item later, items = earlier ++ item :: later → mine item = true →
          ∀ k, key item = some k → some k ∈ (before ++ [first] ++ earlier).map key →
            some k ∈ ((before ++ [first] ++ earlier).filter mine).map key := by
      constructor
      · intro h
        refine ⟨by simpa using h [] first items rfl, ?_⟩
        rintro earlier item later rfl
        simpa using h (first :: earlier) item later rfl
      · rintro ⟨hf, hr⟩ earlier item later heq
        cases earlier with
        | nil =>
          cases heq
          simpa using hf
        | cons other earlier =>
          cases heq
          simpa using hr earlier item later rfl
    rw [hs, ← ih]
    cases hm : mine first with
    | false => simp [answers, hm]
    | true =>
      have ha : answer key before first = answer key (before.filter mine) first ↔
          ∀ k, key first = some k → some k ∈ before.map key →
            some k ∈ (before.filter mine).map key := by
        rw [answer_eq_iff]
        refine forall₂_congr fun k _ => ⟨fun h => h.mp, fun h => ⟨h, ?_⟩⟩
        exact fun hme => (List.filter_sublist.map key).subset hme
      simp [answers, hm, ha]

end Dedup
