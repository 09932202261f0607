import Mathlib.Data.List.Nodup

/-!
# Keyed tables

A table whose rows have distinct keys. A row is inserted unless its key is taken, rows are changed by a
function that keeps their key, and rows are deleted. All of this keeps the keys distinct, so a key
stands for one row at all times, and what happens to a table can be said row by row.
-/

structure KeyedTable {Row Key : Type} (key : Row → Key) where
  rows : List Row
  nodup : (rows.map key).Nodup

namespace KeyedTable

open List

variable {Row Key : Type} {key : Row → Key} {table : KeyedTable key} {row row' : Row} {k : Key}

def empty (key : Row → Key) : KeyedTable key := ⟨[], List.nodup_nil⟩

def insert [DecidableEq Key] (table : KeyedTable key) (row : Row) : KeyedTable key :=
  if htaken : key row ∈ table.rows.map key then table
  else
    ⟨table.rows ++ [row], by
      rw [List.map_append]
      exact table.nodup.append (List.nodup_singleton _) (List.disjoint_singleton.mpr htaken)⟩

/-- Change every row by a function that keeps its key. -/
def modify (table : KeyedTable key) (f : Row → Row) (hkey : ∀ row, key (f row) = key row) :
    KeyedTable key :=
  ⟨table.rows.map f, by
    have hmap : (table.rows.map f).map key = table.rows.map key := by
      rw [List.map_map]
      exact List.map_congr_left fun row _ => hkey row
    rw [hmap]
    exact table.nodup⟩

def filter (table : KeyedTable key) (keep : Row → Bool) : KeyedTable key :=
  ⟨table.rows.filter keep, table.nodup.sublist (List.filter_sublist.map key)⟩

def find? [DecidableEq Key] (table : KeyedTable key) (k : Key) : Option Row :=
  table.rows.find? (key · = k)

def upsert [DecidableEq Key] (table : KeyedTable key) (row : Row) (change : Row → Row)
    (hkey : ∀ row, key (change row) = key row) : KeyedTable key :=
  if key row ∈ table.rows.map key then
    table.modify (fun r => if key r = key row then change r else r) (by
      intro r
      split
      · exact hkey r
      · rfl)
  else table.insert row

theorem eq_of_key_eq (hr : row ∈ table.rows) (hr' : row' ∈ table.rows)
    (hk : key row = key row') : row = row' :=
  inj_on_of_nodup_map table.nodup hr hr' hk

theorem rows_insert [DecidableEq Key] (hf : key row ∉ table.rows.map key) :
    (table.insert row).rows = table.rows ++ [row] := by
  unfold insert
  rw [dif_neg hf]

theorem mem_insert [DecidableEq Key] :
    row' ∈ (table.insert row).rows ↔
      row' ∈ table.rows ∨ key row ∉ table.rows.map key ∧ row' = row := by
  unfold insert
  split
  · next ht => simp [ht]
  · next hf => simp [hf]

theorem mem_filter {keep : Row → Bool} :
    row ∈ (table.filter keep).rows ↔ row ∈ table.rows ∧ keep row = true := List.mem_filter

theorem find?_eq_some_iff [DecidableEq Key] :
    table.find? k = some row ↔ row ∈ table.rows ∧ key row = k := by
  constructor
  · intro h
    exact ⟨mem_of_find?_eq_some h, by simpa using find?_some h⟩
  · rintro ⟨hr, rfl⟩
    cases hf : table.find? (key row) with
    | none =>
      have := find?_eq_none.mp hf row hr
      simp at this
    | some found =>
      have hk : key found = key row := by simpa using find?_some hf
      rw [eq_of_key_eq (mem_of_find?_eq_some hf) hr hk]

theorem mem_insert_of_mem [DecidableEq Key] (h : row' ∈ table.rows) :
    row' ∈ (table.insert row).rows := mem_insert.mpr (Or.inl h)

theorem mem_modify {f : Row → Row} {hk : ∀ row, key (f row) = key row} :
    row' ∈ (table.modify f hk).rows ↔ ∃ row ∈ table.rows, f row = row' := mem_map

theorem find?_eq_none_iff [DecidableEq Key] :
    table.find? k = none ↔ k ∉ table.rows.map key := by
  simp [find?, find?_eq_none]

theorem filter_key_eq [DecidableEq Key] :
    table.rows.filter (key · = k) = (table.find? k).toList := by
  have hn : (table.rows.filter (key · = k)).Nodup := (Nodup.of_map key table.nodup).filter _
  cases hf : table.find? k with
  | none =>
    have hfr := find?_eq_none.mp hf
    simpa [filter_eq_nil_iff] using hfr
  | some row =>
    obtain ⟨hro, hk⟩ := find?_eq_some_iff.mp hf
    apply (perm_singleton).mp
    apply (perm_ext_iff_of_nodup hn (nodup_singleton row)).mpr
    intro r
    rw [List.mem_filter, List.mem_singleton, decide_eq_true_iff]
    constructor
    · rintro ⟨hr, hrk⟩
      exact eq_of_key_eq hr hro (hrk.trans hk.symm)
    · rintro rfl
      exact ⟨hro, hk⟩

theorem find?_insert [DecidableEq Key] (hf : key row ∉ table.rows.map key) :
    (table.insert row).find? k = if key row = k then some row else table.find? k := by
  unfold find?
  rw [rows_insert hf, find?_append, find?_singleton]
  by_cases hk : key row = k
  · subst hk
    have hn : table.rows.find? (key · = key row) = none := find?_eq_none_iff.mpr hf
    simp [hn]
  · simp [hk]

theorem find?_insert_eq [DecidableEq Key] :
    (table.insert row).find? k =
      if key row = k then some ((table.find? k).getD row) else table.find? k := by
  by_cases ht : key row ∈ table.rows.map key
  · have hs : table.insert row = table := by
      unfold insert
      rw [dif_pos ht]
    rw [hs]
    split
    · next hk =>
      subst hk
      cases hf : table.find? (key row) with
      | none => exact absurd ht (find?_eq_none_iff.mp hf)
      | some found => rfl
    · rfl
  · rw [find?_insert ht]
    split
    · next hk =>
      subst hk
      rw [find?_eq_none_iff.mpr ht]
      rfl
    · rfl

theorem find?_filter [DecidableEq Key] {keep : Row → Bool} :
    (table.filter keep).find? k = (table.find? k).filter keep := by
  ext r
  rw [Option.filter_eq_some_iff, find?_eq_some_iff, find?_eq_some_iff, mem_filter, and_right_comm]

theorem find?_modify [DecidableEq Key] {f : Row → Row} {hk : ∀ row, key (f row) = key row} :
    (table.modify f hk).find? k = (table.find? k).map f := by
  unfold find? modify
  rw [find?_map]
  congr 2
  funext r
  simp [hk]

theorem mem_of_mem_upsert [DecidableEq Key] {change : Row → Row}
    {hk : ∀ row, key (change row) = key row} (h : row' ∈ (table.upsert row change hk).rows) :
    row' = row ∨ (∃ old ∈ table.rows, key old = key row ∧ row' = change old) ∨ row' ∈ table.rows := by
  unfold upsert at h
  split at h
  · obtain ⟨old, ho, rfl⟩ := mem_modify.mp h
    split
    · next hs => exact Or.inr (Or.inl ⟨old, ho, hs, rfl⟩)
    · exact Or.inr (Or.inr ho)
  · rcases mem_insert.mp h with ho | ⟨_, rfl⟩
    · exact Or.inr (Or.inr ho)
    · exact Or.inl rfl

theorem find?_upsert [DecidableEq Key] {change : Row → Row}
    {hke : ∀ row, key (change row) = key row} :
    (table.upsert row change hke).find? k =
      if k = key row then some (((table.find? k).map change).getD row) else table.find? k := by
  unfold upsert
  by_cases ht : key row ∈ table.rows.map key
  · rw [if_pos ht, find?_modify]
    cases hf : table.find? k with
    | none =>
      have hk : k ≠ key row := by
        rintro rfl
        exact find?_eq_none_iff.mp hf ht
      rw [if_neg hk]
      rfl
    | some old =>
      obtain ⟨-, rfl⟩ := find?_eq_some_iff.mp hf
      by_cases hk : key old = key row
      · simp [hk]
      · simp [hk]
  · rw [if_neg ht, find?_insert ht]
    by_cases hk : k = key row
    · have hn : table.find? k = none := find?_eq_none_iff.mpr (hk ▸ ht)
      simp [hk, hk ▸ hn]
    · rw [if_neg hk, if_neg (Ne.symm hk)]

@[ext]
theorem ext {table table' : KeyedTable key} (h : table.rows = table'.rows) : table = table' := by
  cases table
  cases table'
  cases h
  rfl

end KeyedTable
