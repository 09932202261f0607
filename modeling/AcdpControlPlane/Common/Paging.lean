import Mathlib.Data.List.TakeWhile
import Mathlib.Data.List.Perm.Basic

/-!
# Paging by a cursor

Items are listed in the order of a key, and handed out in pages. A page ends with all items of its last
key, so the next page can start strictly above that key: the key is the cursor. Without the whole group
at the end of a page, a strict cursor would skip the rest of the group.
-/

namespace Paging

open List

universe u

variable {α : Type u} (key : α → ℤ)

/-- The first `cap` items, and the items after them that have the key of the last of them. -/
def page (cap : ℕ) (listed : List α) : List α :=
  match (listed.take cap).getLast? with
  | none => []
  | some last => listed.take cap ++ (listed.drop cap).takeWhile (key · = key last)

def rest (cap : ℕ) (listed : List α) : List α :=
  match (listed.take cap).getLast? with
  | none => listed
  | some last => (listed.drop cap).dropWhile (key · = key last)

/-- The key of the last item of a page, if there are items after it. -/
def nextCursor (cap : ℕ) (listed : List α) : Option ℤ :=
  if (page key cap listed).length < listed.length then (page key cap listed).getLast?.map key
  else none

def collect (fetch : ℤ → List α × Option ℤ) : ℕ → ℤ → Option (List α)
  | 0, _ => none
  | fuel + 1, since =>
    match fetch since with
    | (items, none) => some items
    | (items, some cursor) => (collect fetch fuel cursor).map (items ++ ·)

/-- The order by key, and by `tie` among equal keys. -/
def byKeyThen (tie : α → α → Bool) (a b : α) : Bool := if key a ≠ key b then key a < key b else tie a b

variable {key} {cap : ℕ} {listed : List α} {cursor : ℤ}

theorem byKeyThen_iff {tie : α → α → Bool} {a b : α} :
    byKeyThen key tie a b = true ↔ key a < key b ∨ key a = key b ∧ tie a b = true := by
  unfold byKeyThen
  by_cases heq : key a = key b
  · simp [heq]
  · simp [heq]

theorem pairwise_mergeSort_byKeyThen (tie : α → α → Bool)
    (htr : ∀ a b c, tie a b = true → tie b c = true → tie a c = true)
    (hto : ∀ a b, (tie a b || tie b a) = true) (items : List α) :
    (items.mergeSort (byKeyThen key tie)).Pairwise fun a b => key a ≤ key b := by
  have hs : (items.mergeSort (byKeyThen key tie)).Pairwise
      fun a b => byKeyThen key tie a b = true := by
    refine pairwise_mergeSort ?_ ?_ items
    · -- the comparator is transitive: by key, and among equal keys by `tie`
      intro a b c ha hb
      rw [byKeyThen_iff] at ha hb ⊢
      rcases ha with ha | ⟨ha, ht⟩ <;> rcases hb with hb | ⟨hb, ht'⟩
      · exact Or.inl (Int.lt_trans ha hb)
      · exact Or.inl (hb ▸ ha)
      · exact Or.inl (ha ▸ hb)
      · exact Or.inr ⟨ha.trans hb, htr _ _ _ ht ht'⟩
    · -- and it is total, which `mergeSort` needs as well
      intro a b
      rw [Bool.or_eq_true, byKeyThen_iff, byKeyThen_iff]
      rcases Int.lt_trichotomy (key a) (key b) with hl | heq | hg
      · exact Or.inl (Or.inl hl)
      · rcases Bool.or_eq_true_iff.mp (hto a b) with ht | ht
        · exact Or.inl (Or.inr ⟨heq, ht⟩)
        · exact Or.inr (Or.inr ⟨heq.symm, ht⟩)
      · exact Or.inr (Or.inl hg)
  refine hs.imp ?_
  intro a b ha
  rcases byKeyThen_iff.mp ha with hl | ⟨heq, -⟩
  · exact Int.le_of_lt hl
  · exact Int.le_of_eq heq

theorem collect_map {β : Type*} {f : α → β} {fetch : ℤ → List α × Option ℤ}
    {fetch' : ℤ → List β × Option ℤ} (h : ∀ since, fetch' since = ((fetch since).1.map f, (fetch since).2))
    (fuel : ℕ) (since : ℤ) : collect fetch' fuel since = (collect fetch fuel since).map (List.map f) := by
  induction fuel generalizing since with
  | zero => rfl
  | succ fuel ih =>
    rw [collect, collect, h]
    cases hf : fetch since with
    | mk items next =>
      cases next with
      | none => rfl
      | some cursor =>
        simp only [ih, Option.map_map]
        refine congrArg (Option.map · _) ?_
        funext rest
        simp

theorem page_append_rest (key : α → ℤ) (cap : ℕ) (listed : List α) :
    page key cap listed ++ rest key cap listed = listed := by
  unfold page rest
  cases (listed.take cap).getLast? with
  | none => rfl
  | some last => simp [append_assoc]

theorem key_getLast_page {last item : α} (hl : (listed.take cap).getLast? = some last)
    (hi : (page key cap listed).getLast? = some item) : key item = key last := by
  unfold page at hi
  simp only [getLast?_append, hl] at hi
  cases hg : ((listed.drop cap).takeWhile (key · = key last)).getLast? with
  | none =>
    rw [hg] at hi
    cases hi
    rfl
  | some member =>
    rw [hg] at hi
    cases hi
    simpa using mem_takeWhile_imp (mem_of_getLast? hg)

theorem rest_eq_nil_of_nextCursor_eq_none (hc : 0 < cap) (h : nextCursor key cap listed = none) :
    rest key cap listed = [] := by
  have hle := congrArg length (page_append_rest key cap listed)
  rw [length_append] at hle
  unfold nextCursor at h
  split at h
  · -- a page without a last item is a page of nothing
    next hs =>
    have hn : page key cap listed = [] := by simpa using h
    unfold page at hn
    cases hl : (listed.take cap).getLast? with
    | none =>
      have ht : listed.take cap = [] := getLast?_eq_none_iff.mp hl
      rcases take_eq_nil_iff.mp ht with hz | hem
      · exact absurd hz (Nat.ne_of_gt hc)
      · subst hem
        exact absurd hs (Nat.not_lt_zero _)
    | some last =>
      rw [hl] at hn
      have ht := (append_eq_nil_iff.mp hn).1
      rw [ht] at hl
      cases hl
  · exact length_eq_zero_iff.mp (by omega)

theorem nextCursor_eq_some (hs : listed.Pairwise fun a b => key a ≤ key b)
    (h : nextCursor key cap listed = some cursor) :
    (∃ item ∈ page key cap listed, key item = cursor) ∧
      (∀ item ∈ page key cap listed, key item ≤ cursor) ∧
      rest key cap listed ≠ [] ∧ ∀ item ∈ rest key cap listed, cursor < key item := by
  unfold nextCursor at h
  split at h
  case isFalse => cases h
  case isTrue hsh =>
    obtain ⟨item, hi, rfl⟩ := Option.map_eq_some_iff.mp h
    have hm : item ∈ page key cap listed := mem_of_getLast? hi
    rw [← page_append_rest key cap listed] at hs
    obtain ⟨hp, hr, hb⟩ := pairwise_append.mp hs
    refine ⟨⟨item, hm, rfl⟩, ?_, ?_, ?_⟩
    · intro other ho
      obtain ⟨front, hf⟩ := getLast?_eq_some_iff.mp hi
      rw [hf] at hp ho
      rcases mem_append.mp ho with ho | ho
      · exact (pairwise_append.mp hp).2.2 other ho item (mem_singleton.mpr rfl)
      · exact Int.le_of_eq (congrArg key (mem_singleton.mp ho))
    · intro hn
      have hle :=
        congrArg length (page_append_rest key cap listed)
      rw [hn, append_nil] at hle
      omega
    · cases hl : (listed.take cap).getLast? with
      | none =>
        unfold page at hm
        rw [hl] at hm
        cases hm
      | some last =>
        have hk := key_getLast_page hl hi
        -- the first item of the rest has another key, and the others come after it
        cases hc : rest key cap listed with
        | nil => exact forall_mem_nil _
        | cons hea tail =>
          have hh : key hea ≠ key last := by
            have hd : (listed.drop cap).dropWhile (key · = key last) = hea :: tail := by
              rw [← hc]
              unfold rest
              rw [hl]
            have hne : (listed.drop cap).dropWhile (key · = key last) ≠ [] := by
              rw [hd]
              exact cons_ne_nil _ _
            simpa [hd] using head_dropWhile_not (key · = key last) hne
          rw [hc] at hr hb
          have hlt : key item < key hea := by
            have := hb item hm hea mem_cons_self
            omega
          intro other ho
          rcases mem_cons.mp ho with rfl | ho
          · exact hlt
          · exact Int.lt_of_lt_of_le hlt ((pairwise_cons.mp hr).1 other ho)

section Collect

variable {sort : List α → List α} {rows : List α}

theorem rest_perm (hp : ∀ items, (sort items).Perm items)
    (hso : ∀ items, (sort items).Pairwise fun a b => key a ≤ key b) {since : ℤ}
    (h : nextCursor key cap (sort (rows.filter (since < key ·))) = some cursor) :
    (rest key cap (sort (rows.filter (since < key ·)))).Perm (rows.filter (cursor < key ·)) := by
  obtain ⟨⟨item, hi, hk⟩, hpa, -, hr⟩ := nextCursor_eq_some (hso _) h
  -- the cursor is the key of a listed item, so it is past the old one
  have hsi : since < cursor := by
    have hl : item ∈ sort (rows.filter (since < key ·)) := by
      rw [← page_append_rest key cap (sort _)]
      exact mem_append_left _ hi
    have := mem_filter.mp ((hp _).mem_iff.mp hl)
    rw [← hk]
    simpa using this.2
  have hf : (rows.filter (since < key ·)).filter (cursor < key ·) =
      rows.filter (cursor < key ·) := by
    rw [filter_filter]
    refine filter_congr fun item _ => ?_
    simp only [Bool.and_eq_left_iff_imp, decide_eq_true_eq]
    exact Int.lt_trans hsi
  have ha := (hp (rows.filter (since < key ·))).filter (cursor < key ·)
  rw [hf, ← page_append_rest key cap (sort _),
    filter_append] at ha
  -- the page holds what is up to the cursor, the rest what is above it
  have hn : (page key cap (sort (rows.filter (since < key ·)))).filter (cursor < key ·) = [] :=
    filter_eq_nil_iff.mpr fun item hi => by simpa using hpa item hi
  have hs : (rest key cap (sort (rows.filter (since < key ·)))).filter (cursor < key ·) =
      rest key cap (sort (rows.filter (since < key ·))) :=
    filter_eq_self.mpr fun item hi => by simpa using hr item hi
  rwa [hn, hs, nil_append] at ha

theorem collect_perm (hca : 0 < cap) (hp : ∀ items, (sort items).Perm items)
    (hs : ∀ items, (sort items).Pairwise fun a b => key a ≤ key b) (fuel : ℕ) (since : ℤ)
    (hf : (rows.filter (since < key ·)).length < fuel) :
    ∃ items, collect (fun since => (page key cap (sort (rows.filter (since < key ·))),
        nextCursor key cap (sort (rows.filter (since < key ·))))) fuel since = some items ∧
      items.Perm (rows.filter (since < key ·)) := by
  induction fuel generalizing since with
  | zero => exact absurd hf (Nat.not_lt_zero _)
  | succ fuel ih =>
    have ha := page_append_rest key cap (sort (rows.filter (since < key ·)))
    simp only [collect]
    cases hc : nextCursor key cap (sort (rows.filter (since < key ·))) with
    | none =>
      refine ⟨_, rfl, ?_⟩
      rw [rest_eq_nil_of_nextCursor_eq_none hca hc, append_nil] at ha
      rw [ha]
      exact hp _
    | some cursor =>
      have hr := rest_perm hp hs hc
      obtain ⟨⟨item, hit, -⟩, -⟩ := nextCursor_eq_some (hs _) hc
      have hl := congrArg length ha
      rw [length_append, (hp _).length_eq, hr.length_eq] at hl
      -- a page is not empty, so the next call needs less fuel
      have hpa := length_pos_of_mem hit
      obtain ⟨items, hits, hi⟩ := ih cursor (by omega)
      dsimp only
      rw [hits]
      refine ⟨_, rfl, ?_⟩
      refine ((hi.trans hr.symm).append_left _).trans ?_
      rw [ha]
      exact hp _

end Collect

end Paging
