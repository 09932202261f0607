import Mathlib.Data.List.Dedup
import Mathlib.Data.List.MinMax
import Mathlib.Data.List.Perm.Subperm
import Mathlib.Data.List.Sort

/-!
# Ranked rows

The place of a row in its part of a table and the first row of each key, as `ROW_NUMBER` and
`DISTINCT ON` compute them. Where no two rows have one rank, the row number counts the rows that come
before.
-/

namespace Window

variable {Row Key Rank : Type} [LinearOrder Rank]

def sortBy (rank : Row → Rank) (rows : List Row) : List Row :=
  rows.insertionSort (rank · ≤ rank ·)

def rowNumber [DecidableEq Row] [DecidableEq Key] (key : Row → Key) (rank : Row → Rank)
    (rows : List Row) (row : Row) : ℕ :=
  (sortBy rank (rows.filter (key · = key row))).idxOf row + 1

def distinctOn [DecidableEq Key] (key : Row → Key) (rank : Row → Rank) (rows : List Row) :
    List Row :=
  (rows.map key).dedup.filterMap fun k => (rows.filter (key · = k)).argmin rank

variable {key : Row → Key} {rank : Row → Rank} {rows rows' : List Row} {row : Row}

theorem perm_sortBy (rank : Row → Rank) (rows : List Row) : (sortBy rank rows).Perm rows :=
  List.perm_insertionSort _ _

theorem pairwise_sortBy : (sortBy rank rows).Pairwise (rank · ≤ rank ·) := by
  have : Std.Total fun a b : Row => rank a ≤ rank b := ⟨fun a b => le_total (rank a) (rank b)⟩
  have : IsTrans Row fun a b : Row => rank a ≤ rank b := ⟨fun _ _ _ => le_trans⟩
  exact List.pairwise_insertionSort _ _

theorem pairwise_lt_sortBy (hd : (rows.map rank).Nodup) :
    (sortBy rank rows).Pairwise (rank · < rank ·) := by
  have hn : (sortBy rank rows).Pairwise (rank · ≠ rank ·) :=
    List.pairwise_map.mp (((perm_sortBy rank rows).map rank).nodup_iff.mpr hd)
  exact (pairwise_sortBy.and hn).imp fun h => lt_of_le_of_ne h.1 h.2

theorem sortBy_eq_of_perm (hd : (rows.map rank).Nodup) (h : rows.Perm rows') :
    sortBy rank rows = sortBy rank rows' := by
  have hp : (sortBy rank rows).Perm (sortBy rank rows') :=
    ((perm_sortBy rank rows).trans h).trans (perm_sortBy rank rows').symm
  refine hp.eq_of_pairwise ?_ pairwise_sortBy pairwise_sortBy
  intro a b ha hb hab hba
  exact List.inj_on_of_nodup_map hd ((perm_sortBy _ _).mem_iff.mp ha)
    (h.mem_iff.mpr ((perm_sortBy _ _).mem_iff.mp hb)) (le_antisymm hab hba)

theorem idxOf_eq_length_filter [DecidableEq Row] (hl : rows.Pairwise (rank · < rank ·))
    (hro : row ∈ rows) : rows.idxOf row = (rows.filter (rank · < rank row)).length := by
  induction rows with
  | nil => cases hro
  | cons first rows ih =>
    obtain ⟨hf, hl⟩ := List.pairwise_cons.mp hl
    by_cases heq : first = row
    · subst heq
      have hn : rows.filter (rank · < rank first) = [] := by
        rw [List.filter_eq_nil_iff]
        intro r hr
        simpa using (hf r hr).le
      simp [hn]
    · have hm : row ∈ rows := (List.mem_cons.mp hro).resolve_left (Ne.symm heq)
      rw [List.idxOf_cons_ne _ heq, ih hl hm,
        List.filter_cons_of_pos (by simpa using hf row hm)]
      rfl

/-- The first `n` rows and the last one are `n + 1` rows, if there are as many. -/
theorem min_length_le [DecidableEq Row] {n : ℕ} {keep : Row → Bool}
    (hlt : rows.Pairwise (rank · < rank ·))
    (hf : ∀ row ∈ rows, rows.idxOf row < n → keep row = true)
    (hl : ∀ row ∈ rows, (∀ r ∈ rows, rank r ≤ rank row) → keep row = true) :
    min rows.length (n + 1) ≤ (rows.filter keep).length := by
  induction rows generalizing n with
  | nil => simp
  | cons first rows ih =>
    cases n with
    | zero =>
      obtain ⟨last, hm⟩ := Option.ne_none_iff_exists'.mp
        (mt List.argmax_eq_none.mp (List.cons_ne_nil first rows) : List.argmax rank _ ≠ none)
      have hme := List.argmax_mem hm
      have hk := hl last hme fun r hr => List.le_of_mem_argmax hr hm
      have hp := List.length_pos_of_mem (List.mem_filter.mpr ⟨hme, hk⟩)
      omega
    | succ n =>
      obtain ⟨hb, hlt⟩ := List.pairwise_cons.mp hlt
      rw [List.filter_cons_of_pos (hf first List.mem_cons_self (by simp))]
      have hre : min rows.length (n + 1) ≤ (rows.filter keep).length := by
        refine ih hlt (fun row hro hi => ?_) fun row hro hm => ?_
        · refine hf row (List.mem_cons_of_mem _ hro) ?_
          rw [List.idxOf_cons_ne _ (ne_of_apply_ne rank (hb row hro).ne)]
          omega
        · exact hl row (List.mem_cons_of_mem _ hro)
            (List.forall_mem_cons.mpr ⟨(hb row hro).le, hm⟩)
      simp only [List.length_cons]
      omega

section RowNumber

variable [DecidableEq Row] [DecidableEq Key]

theorem rowNumber_eq (key : Row → Key) (hd : (rows.map rank).Nodup) (hr : row ∈ rows) :
    rowNumber key rank rows row =
      (rows.filter fun r => rank r < rank row ∧ key r = key row).length + 1 := by
  have hp : ((rows.filter (key · = key row)).map rank).Nodup :=
    hd.sublist (List.filter_sublist.map rank)
  have hm : row ∈ sortBy rank (rows.filter (key · = key row)) :=
    (perm_sortBy _ _).mem_iff.mpr (List.mem_filter.mpr ⟨hr, by simp⟩)
  rw [rowNumber, idxOf_eq_length_filter (pairwise_lt_sortBy hp) hm,
    ((perm_sortBy _ _).filter _).length_eq, List.filter_filter]
  simp

theorem rowNumber_le_one_iff (key : Row → Key) (hd : (rows.map rank).Nodup) (hr : row ∈ rows) :
    rowNumber key rank rows row ≤ 1 ↔ ∀ r ∈ rows, key r = key row → rank row ≤ rank r := by
  rw [rowNumber_eq key hd hr]
  simp [imp_not_comm]

end RowNumber

section DistinctOn

variable [DecidableEq Key]

theorem of_mem_distinctOn (h : row ∈ distinctOn key rank rows) :
    row ∈ rows ∧ ∀ r ∈ rows, key r = key row → rank row ≤ rank r := by
  obtain ⟨k, -, hm⟩ := List.mem_filterMap.mp h
  obtain ⟨hro, hk⟩ := List.mem_filter.mp (List.argmin_mem hm)
  refine ⟨hro, fun r hr hke => List.le_of_mem_argmin (List.mem_filter.mpr ⟨hr, ?_⟩) hm⟩
  simpa [hke] using hk

theorem exists_mem_distinctOn (key : Row → Key) (rank : Row → Rank) (hr : row ∈ rows) :
    ∃ first ∈ distinctOn key rank rows, key first = key row := by
  have hp : row ∈ rows.filter (key · = key row) := List.mem_filter.mpr ⟨hr, by simp⟩
  obtain ⟨first, hm⟩ := Option.ne_none_iff_exists'.mp
    (mt List.argmin_eq_none.mp (List.ne_nil_of_mem hp) : List.argmin rank _ ≠ none)
  refine ⟨first, List.mem_filterMap.mpr ⟨key row, ?_, hm⟩, ?_⟩
  · exact List.mem_dedup.mpr (List.mem_map_of_mem hr)
  · simpa using (List.mem_filter.mp (List.argmin_mem hm)).2

theorem nodup_distinctOn : (distinctOn key rank rows).Nodup := by
  refine List.Nodup.filterMap ?_ (List.nodup_dedup _)
  intro k k' row hk hk'
  have hke := (List.mem_filter.mp (List.argmin_mem hk)).2
  have hke' := (List.mem_filter.mp (List.argmin_mem hk')).2
  simp only [decide_eq_true_eq] at hke hke'
  exact hke.symm.trans hke'

/-- Rows that are not the first of their key can go. -/
theorem distinctOn_perm (hd : (rows.map rank).Nodup) (hs : rows'.Sublist rows)
    (hke : ∀ row ∈ distinctOn key rank rows, row ∈ rows') :
    (distinctOn key rank rows').Perm (distinctOn key rank rows) := by
  -- two rows of one key that are first in either table are the same row
  have hsa : ∀ row ∈ distinctOn key rank rows', ∀ first ∈ distinctOn key rank rows,
      key first = key row → row = first := by
    intro row hr first hf hk
    obtain ⟨hm, hl⟩ := of_mem_distinctOn hr
    obtain ⟨hm', hl'⟩ := of_mem_distinctOn hf
    exact List.inj_on_of_nodup_map hd (hs.subset hm) hm' (le_antisymm
      (hl first (hke first hf) hk) (hl' row (hs.subset hm) hk.symm))
  rw [List.perm_ext_iff_of_nodup nodup_distinctOn nodup_distinctOn]
  intro row
  constructor
  · intro hr
    obtain ⟨first, hf, hk⟩ :=
      exists_mem_distinctOn key rank (hs.subset (of_mem_distinctOn hr).1)
    rwa [hsa row hr first hf hk]
  · intro hr
    obtain ⟨first, hf, hk⟩ := exists_mem_distinctOn key rank (hke row hr)
    rwa [← hsa first hf row hr hk.symm]

end DistinctOn

end Window
