import AcdpControlPlane.Common.Window
import AcdpControlPlane.Storage.Table
import Mathlib.Data.Prod.Lex

/-!
# Retention of cosignatures

`purgeOldPerTuple` of `src/storage/log-cosignature.repository.ts` deletes old cosignatures from the
middle of what each tenant and witness holds for a head, and `list` reads the newest cosignature of
each head. The instants are those of the database, and `Rest` is the columns that neither of them reads.
-/

namespace AcdpControlPlane.LogCosignatureRepository

open Window

/-- A row of `log_cosignatures`. -/
structure Row (Rest : Type) where
  id : String
  tenantId : String
  witnessId : String
  logId : String
  treeSize : ℕ
  rootHash : String
  witnessedAt : ℤ
  rest : Rest
deriving DecidableEq

variable {Rest : Type}

abbrev Table (Rest : Type) := KeyedTable fun row : Row Rest => row.id

namespace Row

def head (row : Row Rest) : String × ℕ × String := (row.logId, row.treeSize, row.rootHash)

def tuple (row : Row Rest) : String × String × String × ℕ × String :=
  (row.tenantId, row.witnessId, row.head)

/-- The order `witnessed_at DESC`. -/
def newest (row : Row Rest) : ℤᵒᵈ := .toDual row.witnessedAt

/-- The order `witnessed_at DESC, tree_size DESC`. -/
def mostRecent (row : Row Rest) : ℤᵒᵈ ×ₗ ℕᵒᵈ := toLex (row.newest, .toDual row.treeSize)

end Row

structure Filter where
  witnessId : String
  logId : Option String := none
  treeSize : Option ℕ := none
  limit : Option ℕ := none
  all : Bool := false

def Filter.conditions (filter : Filter) (row : Row Rest) : Bool :=
  row.witnessId == filter.witnessId && filter.logId.all (row.logId == ·) &&
    filter.treeSize.all (row.treeSize == ·)

def list (filter : Filter) (table : Table Rest) : List (Row Rest) :=
  let rows := table.rows.filter filter.conditions
  if filter.all then (sortBy Row.mostRecent rows).take (filter.limit.getD 200)
  else (sortBy Row.mostRecent (distinctOn Row.head Row.newest rows)).take (filter.limit.getD 50)

variable [DecidableEq Rest]

def selected (cutoff keepPerHead : ℤ) (table : Table Rest) (row : Row Rest) : Bool :=
  max (keepPerHead - 1) 0 < rowNumber Row.tuple Row.newest table.rows row &&
    1 < rowNumber Row.tuple Row.witnessedAt table.rows row && row.witnessedAt < cutoff

/-- The number of rows that are deleted, and the table without them. -/
def purgeOldPerTuple (cutoff keepPerHead : ℤ) (table : Table Rest) : ℕ × Table Rest :=
  ((table.rows.filter (selected cutoff keepPerHead table)).length,
    table.filter (!selected cutoff keepPerHead table ·))

def Oldest (table : Table Rest) (row : Row Rest) : Prop :=
  ∀ r ∈ table.rows, r.tuple = row.tuple → row.witnessedAt ≤ r.witnessedAt

/-- Less than `n` rows of the tuple are newer. -/
def AmongNewest (n : ℤ) (table : Table Rest) (row : Row Rest) : Prop :=
  (table.rows.filter fun r => row.witnessedAt < r.witnessedAt ∧ r.tuple = row.tuple).length < n

variable {table : Table Rest} {cutoff keepPerHead : ℤ} {row : Row Rest}

omit [DecidableEq Rest] in
theorem nodup_newest (hdi : (table.rows.map Row.witnessedAt).Nodup) :
    (table.rows.map Row.newest).Nodup := by
  have hd := hdi.map OrderDual.toDual.injective
  rwa [List.map_map] at hd

theorem selected_iff (hd : (table.rows.map Row.witnessedAt).Nodup) (hk : 1 ≤ keepPerHead)
    (hr : row ∈ table.rows) :
    selected cutoff keepPerHead table row = true ↔
      row.witnessedAt < cutoff ∧ ¬ Oldest table row ∧ ¬ AmongNewest (keepPerHead - 1) table row := by
  have ho : rowNumber Row.tuple Row.witnessedAt table.rows row ≤ 1 ↔ Oldest table row :=
    rowNumber_le_one_iff Row.tuple hd hr
  have hn : rowNumber Row.tuple Row.newest table.rows row =
      (table.rows.filter fun r => row.witnessedAt < r.witnessedAt ∧ r.tuple = row.tuple).length + 1 :=
    rowNumber_eq Row.tuple (nodup_newest hd) hr
  simp only [selected, AmongNewest, hn, ← ho, Bool.and_eq_true, decide_eq_true_eq]
  omega

theorem mem_purgeOldPerTuple (hd : (table.rows.map Row.witnessedAt).Nodup)
    (hk : 1 ≤ keepPerHead) :
    row ∈ (purgeOldPerTuple cutoff keepPerHead table).2.rows ↔ row ∈ table.rows ∧
      ¬ (row.witnessedAt < cutoff ∧ ¬ Oldest table row ∧
        ¬ AmongNewest (keepPerHead - 1) table row) := by
  refine KeyedTable.mem_filter.trans (and_congr_right fun hr => ?_)
  rw [← selected_iff hd hk hr]
  simp

/-- What is left of a table is left by the next purge. -/
theorem purgeOldPerTuple_again (hd : (table.rows.map Row.witnessedAt).Nodup)
    (hk : 1 ≤ keepPerHead) :
    purgeOldPerTuple cutoff keepPerHead (purgeOldPerTuple cutoff keepPerHead table).2 =
      (0, (purgeOldPerTuple cutoff keepPerHead table).2) := by
  have hs : (purgeOldPerTuple cutoff keepPerHead table).2.rows.Sublist table.rows :=
    List.filter_sublist
  have hn : ∀ row ∈ (purgeOldPerTuple cutoff keepPerHead table).2.rows,
      ¬ selected cutoff keepPerHead (purgeOldPerTuple cutoff keepPerHead table).2 row = true := by
    intro row hro hse
    obtain ⟨-, hke⟩ := (mem_purgeOldPerTuple hd hk).mp hro
    obtain ⟨ha, ho, hne⟩ := (selected_iff (hd.sublist (hs.map _)) hk hro).mp hse
    -- an end of a tuple is an end of any part of it
    refine hke ⟨ha, fun h => ho fun r hr => h r (hs.subset hr), fun h => hne ?_⟩
    have hl := (hs.filter fun r => row.witnessedAt < r.witnessedAt ∧ r.tuple = row.tuple).length_le
    unfold AmongNewest at h ⊢
    omega
  refine Prod.ext ?_ (KeyedTable.ext ?_)
  · exact List.length_eq_zero_iff.mpr (List.filter_eq_nil_iff.mpr hn)
  · exact List.filter_eq_self.mpr fun row hro => by simpa using hn row hro

theorem min_size_le (cutoff : ℤ) (n : ℕ) (hd : (table.rows.map Row.witnessedAt).Nodup)
    (t : String × String × String × ℕ × String) :
    min (table.rows.filter (·.tuple = t)).length (n + 1) ≤
      ((purgeOldPerTuple cutoff (n + 1) table).2.rows.filter (·.tuple = t)).length := by
  have hc : (purgeOldPerTuple cutoff (n + 1) table).2.rows.filter (·.tuple = t) =
      (table.rows.filter (·.tuple = t)).filter (!selected cutoff (n + 1) table ·) :=
    List.filter_comm ..
  rw [hc]
  -- the rows of the tuple, the newest first
  have hp := perm_sortBy Row.newest (table.rows.filter (·.tuple = t))
  have hm : ∀ row, row ∈ sortBy Row.newest (table.rows.filter (·.tuple = t)) ↔
      row ∈ table.rows ∧ row.tuple = t := by
    intro row
    rw [hp.mem_iff, List.mem_filter, decide_eq_true_eq]
  rw [← hp.length_eq, ← (hp.filter _).length_eq]
  refine min_length_le (pairwise_lt_sortBy ((nodup_newest hd).sublist
    (List.filter_sublist.map _))) (fun row hro hi => ?_) fun row hro hma => ?_
  · obtain ⟨-, rfl⟩ := (hm row).mp hro
    simp [selected, rowNumber]
    omega
  · obtain ⟨ht, rfl⟩ := (hm row).mp hro
    have ho := (rowNumber_le_one_iff Row.tuple hd ht).mpr fun r hr htu =>
      hma r ((hm r).mpr ⟨hr, htu⟩)
    simp [selected]
    omega

theorem list_purgeOldPerTuple (hdi : (table.rows.map Row.witnessedAt).Nodup)
    (hk : 2 ≤ keepPerHead) {filter : Filter} (ha : filter.all = false) :
    list filter (purgeOldPerTuple cutoff keepPerHead table).2 = list filter table := by
  have hrows : ((table.rows.filter filter.conditions).map Row.newest).Nodup :=
    (nodup_newest hdi).sublist (List.filter_sublist.map _)
  have hp : (distinctOn Row.head Row.newest ((purgeOldPerTuple cutoff keepPerHead
      table).2.rows.filter filter.conditions)).Perm
      (distinctOn Row.head Row.newest (table.rows.filter filter.conditions)) := by
    refine distinctOn_perm hrows (List.filter_sublist.filter _) fun row hro => ?_
    obtain ⟨hm, hn⟩ := of_mem_distinctOn hro
    obtain ⟨hro, hc⟩ := List.mem_filter.mp hm
    -- the newest row of a head is the newest of its tuple
    have hnu := (rowNumber_le_one_iff Row.tuple (nodup_newest hdi) hro).mpr fun r hr ht => by
      obtain ⟨-, hw, hh⟩ : r.tenantId = row.tenantId ∧ r.witnessId = row.witnessId ∧
        r.head = row.head := by simpa [Row.tuple] using ht
      obtain ⟨hl, hs, -⟩ : r.logId = row.logId ∧ r.treeSize = row.treeSize ∧
        r.rootHash = row.rootHash := by simpa [Row.head] using hh
      refine hn r (List.mem_filter.mpr ⟨hr, ?_⟩) hh
      rw [Filter.conditions, hw, hl, hs]
      exact hc
    refine List.mem_filter.mpr ⟨KeyedTable.mem_filter.mpr ⟨hro, ?_⟩, hc⟩
    simp [selected]
    omega
  have hd : ((distinctOn Row.head Row.newest
      (table.rows.filter filter.conditions)).map Row.mostRecent).Nodup := by
    refine List.Nodup.map_on (fun row hro row' hro' heq => ?_) nodup_distinctOn
    have hn : row.newest = row'.newest := congrArg (fun rank => (ofLex rank).1) heq
    exact List.inj_on_of_nodup_map hrows (of_mem_distinctOn hro).1 (of_mem_distinctOn hro').1 hn
  simp only [list, ha, Bool.false_eq_true, if_false]
  rw [sortBy_eq_of_perm hd hp.symm]

/-- A purge deletes the old rows that are neither the oldest of their tuple nor among its newest,
deletes nothing when it is run again, and leaves the newest cosignature of each head in place. -/
theorem purgeOldPerTuple_keeps (table : Table Rest) (cutoff keepPerHead : ℤ)
    (hd : (table.rows.map Row.witnessedAt).Nodup) (hk : 1 ≤ keepPerHead) :
    (∀ row, row ∈ (purgeOldPerTuple cutoff keepPerHead table).2.rows ↔ row ∈ table.rows ∧
      ¬ (row.witnessedAt < cutoff ∧ ¬ Oldest table row ∧
        ¬ AmongNewest (keepPerHead - 1) table row)) ∧
    (∀ t, min ((table.rows.filter (·.tuple = t)).length : ℤ) keepPerHead ≤
      ((purgeOldPerTuple cutoff keepPerHead table).2.rows.filter (·.tuple = t)).length) ∧
    purgeOldPerTuple cutoff keepPerHead (purgeOldPerTuple cutoff keepPerHead table).2 =
      (0, (purgeOldPerTuple cutoff keepPerHead table).2) ∧
    (2 ≤ keepPerHead → ∀ filter : Filter, filter.all = false →
      list filter (purgeOldPerTuple cutoff keepPerHead table).2 = list filter table) := by
  refine ⟨fun row => mem_purgeOldPerTuple hd hk, fun t => ?_,
    purgeOldPerTuple_again hd hk, fun h _ => list_purgeOldPerTuple hd h⟩
  obtain ⟨n, rfl⟩ : ∃ n : ℕ, keepPerHead = n + 1 := ⟨(keepPerHead - 1).toNat, by omega⟩
  have hs := min_size_le cutoff n hd t
  omega

def sampleTable : Table Unit where
  rows := [1, 2, 3].map fun t =>
    ⟨toString t, "default", "did:web:w", "did:web:r/log/1", 7, "sha256:00", t, ()⟩
  nodup := by decide

theorem purgeOldPerTuple_keeps_sample : (purgeOldPerTuple 9 2 sampleTable).1 = 1 ∧
    list ⟨"did:web:w", none, none, none, false⟩ (purgeOldPerTuple 9 2 sampleTable).2 =
      list ⟨"did:web:w", none, none, none, false⟩ sampleTable :=
  ⟨by decide, (purgeOldPerTuple_keeps sampleTable 9 2 (by decide) (by decide)).2.2.2 (by decide) _ rfl⟩

end AcdpControlPlane.LogCosignatureRepository
