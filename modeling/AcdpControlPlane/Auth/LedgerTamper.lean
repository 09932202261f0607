import AcdpControlPlane.Auth.Challenge
import AcdpControlPlane.Auth.Ledger
import AcdpControlPlane.Common.Separated

/-!
# Tampering with the ledger

The rows of the ledger as someone with access to the store can write them: any text in any column, and
hash columns that may be `NULL`. `verifyChain` of `src/auth/issuance-ledger.service.ts` reads such rows, and
passes over a `NULL` hash.
-/

namespace AcdpControlPlane

open List HashChain

/-! ## Rows -/

/-- The data columns of a row, as they can be written. -/
structure LedgerColumns where
  jti : Option String
  sub : Option String
  iss : Option String
  iat : Option Int
  exp : Option Int
  signerIp : Option String
  decision : String
  decisionDetail : Option String
deriving DecidableEq, Repr

/-- `Number(v)` of a `bigint` -/
def numberOfBigint (v : Int) : Int := v.sign * roundToDouble v.natAbs

namespace LedgerColumns

def fields (columns : LedgerColumns) : List String :=
  [columns.decision, columns.jti.getD "", columns.sub.getD "", columns.iss.getD "",
    (columns.iat.map (toString ∘ numberOfBigint)).getD "",
    (columns.exp.map (toString ∘ numberOfBigint)).getD "", columns.signerIp.getD "",
    columns.decisionDetail.getD ""]

def canonical (columns : LedgerColumns) (prevHash : String) : String :=
  String.intercalate "\x1f" (prevHash :: columns.fields)

def pieces (columns : LedgerColumns) : List String :=
  columns.fields.flatMap (Separated.split · '\x1f')

/-- The columns, with `NULL` read as empty. -/
def values (columns : LedgerColumns) :
    String × String × String × String × Option Int × Option Int × String × String :=
  (columns.decision, columns.jti.getD "", columns.sub.getD "", columns.iss.getD "", columns.iat,
    columns.exp, columns.signerIp.getD "", columns.decisionDetail.getD "")

/-- No column has a unit separator, and the numbers are exact in JavaScript. -/
structure Free (columns : LedgerColumns) : Prop where
  fields : ∀ field ∈ columns.fields, '\x1f' ∉ field.toList
  iat : ∀ v ∈ columns.iat, v.natAbs < 2 ^ 53
  exp : ∀ v ∈ columns.exp, v.natAbs < 2 ^ 53

end LedgerColumns

structure StoredRow where
  columns : LedgerColumns
  prevHash : Option String
  entryHash : Option String
deriving DecidableEq, Repr

def IssuanceLedgerEntry.columns (e : IssuanceLedgerEntry) : LedgerColumns :=
  ⟨e.jti, e.sub, e.iss, e.iat, e.exp, e.signerIp, e.decision.text, e.decisionDetail⟩

def MemoryEntry.stored (entry : MemoryEntry) : StoredRow :=
  ⟨entry.row.columns, some entry.prevHash, some entry.entryHash⟩

def LedgerRow.stored (row : LedgerRow) : StoredRow := ⟨row.entry.columns, row.prevHash, row.entryHash⟩

/-! ## Verifying them -/

section Verify

variable (sha256 : String → String)

/-- The loop of both verifiers, from the `i`-th row on. They differ in when a hash column is broken. -/
def verifyStoredFrom (broken : Option String → String → Bool) (total : ℕ) :
    String → ℕ → List StoredRow → ChainVerdict
  | _, _, [] => ⟨true, -1, total⟩
  | prev, i, row :: rows =>
    if broken row.prevHash prev then ⟨false, i, total⟩
    else
      let recomputed := sha256 (row.columns.canonical prev)
      if broken row.entryHash recomputed then ⟨false, i, total⟩
      else verifyStoredFrom broken total (row.entryHash.getD recomputed) (i + 1) rows

/-- The map has no `NULL`. -/
def verifyStoredMemory (rows : List StoredRow) : ChainVerdict :=
  verifyStoredFrom sha256 (fun hash expected => hash ≠ some expected) rows.length ZERO_HASH 0 rows

/-- A `NULL` passes. -/
def verifyStoredPostgres (rows : List StoredRow) : ChainVerdict :=
  verifyStoredFrom sha256 (fun hash expected => hash.any (· ≠ expected)) rows.length ZERO_HASH 0 rows

def verifyStored (persistence : Persistence) (rows : List StoredRow) : ChainVerdict :=
  match persistence with
  | .memory => verifyStoredMemory sha256 rows
  | .postgres => verifyStoredPostgres sha256 rows

end Verify

/-! ## Writing them -/

/-- A call of `record`: the entry, and the id and the time of its row. Its times are exact in JavaScript. -/
structure LedgerWrite where
  entry : IssuanceLedgerEntry
  id : String
  createdAt : ℕ
  iat : ∀ v ∈ entry.iat, v.natAbs < 2 ^ 53
  exp : ∀ v ∈ entry.exp, v.natAbs < 2 ^ 53

section Record

variable (sha256 : String → String)

/-- The transaction of a write, after those of the writes before it. -/
def recordPostgres (rows : List LedgerRow) (write : LedgerWrite) : List LedgerRow :=
  rows ++ [{
    id := write.id
    createdAt := write.createdAt
    entry := write.entry
    prevHash := some (headHash rows)
    entryHash := some (computeEntryHash sha256 (headHash rows) write.entry) }]

def storedRows (persistence : Persistence) (writes : List LedgerWrite) : List StoredRow :=
  match persistence with
  | .memory => ((writes.map LedgerWrite.entry).foldl (recordMemory sha256) []).map MemoryEntry.stored
  | .postgres => (chronological (writes.foldl (recordPostgres sha256) [])).map LedgerRow.stored

def StoredChained (start : String) : List StoredRow → Prop :=
  HashChain.Chained StoredRow.prevHash StoredRow.entryHash
    (fun prev row => prev.map (sha256 ∘ row.columns.canonical)) (some start)

end Record

/-! ## What `record` writes is chained -/

theorem numberOfBigint_of_lt {v : Int} (h : v.natAbs < 2 ^ 53) : numberOfBigint v = v := by
  unfold numberOfBigint
  rw [roundToDouble_of_lt h]
  exact Int.sign_mul_natAbs v

theorem canonical_columns {e : IssuanceLedgerEntry} (hi : ∀ v ∈ e.iat, v.natAbs < 2 ^ 53)
    (hex : ∀ v ∈ e.exp, v.natAbs < 2 ^ 53) (prevHash : String) :
    e.columns.canonical prevHash = e.canonical prevHash := by
  have hn : ∀ v? : Option Int, (∀ v ∈ v?, v.natAbs < 2 ^ 53) →
      v?.map (toString ∘ numberOfBigint) = v?.map toString := by
    rintro (_ | v) hv
    · rfl
    · simp [numberOfBigint_of_lt (hv v rfl)]
  unfold LedgerColumns.canonical LedgerColumns.fields IssuanceLedgerEntry.canonical
    IssuanceLedgerEntry.columns
  rw [hn _ hi, hn _ hex]

section Recorded

variable {sha256 : String → String} {writes : List LedgerWrite}

theorem map_recorded : (writes.foldl (recordPostgres sha256) []).map (fun row => (row.entry, row.createdAt)) =
    writes.map fun write => (write.entry, write.createdAt) := by
  induction writes using reverseRecOn with
  | nil => rfl
  | append_singleton writes write ih =>
    rw [foldl_append, foldl_cons, foldl_nil, recordPostgres, map_append, ih,
      map_append]
    rfl

theorem chronological_recorded (ht : (writes.map LedgerWrite.createdAt).Pairwise (· < ·)) :
    chronological (writes.foldl (recordPostgres sha256) []) =
      writes.foldl (recordPostgres sha256) [] := by
  have hm := congrArg (map Prod.snd) (@map_recorded sha256 writes)
  rw [map_map, map_map] at hm
  have hr : ((writes.foldl (recordPostgres sha256) []).map LedgerRow.createdAt).Pairwise (· < ·) := by
    have heq : (writes.foldl (recordPostgres sha256) []).map LedgerRow.createdAt =
        writes.map LedgerWrite.createdAt := hm
    rw [heq]
    exact ht
  exact Pairwise.insertionSort_eq ((pairwise_map.mp hr).imp Or.inl)

theorem rowsChained_recorded (ht : (writes.map LedgerWrite.createdAt).Pairwise (· < ·)) :
    RowsChained sha256 ZERO_HASH (writes.foldl (recordPostgres sha256) []) := by
  induction writes using reverseRecOn with
  | nil => trivial
  | append_singleton writes write ih =>
    rw [map_append, pairwise_append] at ht
    have hh : ∀ row ∈ writes.foldl (recordPostgres sha256) [], row.entryHash.isSome :=
      ((ih ht.1).forall_digest (P := fun ha => ha.isSome) rfl
        fun _ _ h => Option.isSome_map.trans h).1
    have hti := tip_chronological hh
    rw [chronological_recorded ht.1] at hti
    rw [foldl_append]
    refine chained_append_singleton.mpr ⟨ih ht.1, ?_, ?_⟩
    · exact hti.symm
    · rw [hti]
      rfl

theorem storedChained_storedRows (persistence : Persistence)
    (ht : (writes.map LedgerWrite.createdAt).Pairwise (· < ·)) :
    StoredChained sha256 ZERO_HASH (storedRows sha256 persistence writes) := by
  cases persistence with
  | memory =>
    refine Chained.map (g := some) (fun _ => rfl) (fun _ => rfl) ?_
      (memoryChained_recorded (writes.map LedgerWrite.entry))
    intro last entry hen
    have hm : entry.row ∈ writes.map LedgerWrite.entry := by
      rw [← @map_row_recorded sha256 (writes.map LedgerWrite.entry)]
      exact mem_map_of_mem hen
    obtain ⟨write, -, hw⟩ := mem_map.mp hm
    have hc := canonical_columns (hw ▸ write.iat) (hw ▸ write.exp) last
    simp [MemoryEntry.stored, hc, computeEntryHash]
  | postgres =>
    unfold storedRows
    rw [chronological_recorded ht]
    refine Chained.map (g := id) (fun _ => rfl) (fun _ => rfl) ?_ (rowsChained_recorded ht)
    intro last row hr
    have hm : row.entry ∈ writes.map LedgerWrite.entry := by
      have hma := congrArg (map Prod.fst) (@map_recorded sha256 writes)
      rw [map_map, map_map] at hma
      have hen : row.entry ∈ (writes.foldl (recordPostgres sha256) []).map LedgerRow.entry :=
        mem_map_of_mem hr
      exact hma ▸ hen
    obtain ⟨write, -, hw⟩ := mem_map.mp hm
    have hc := canonical_columns (hw ▸ write.iat) (hw ▸ write.exp)
    cases last with
    | none => rfl
    | some last => simp [linkHash, LedgerRow.stored, hc, computeEntryHash]

end Recorded

/-! ## Verifying a chain that was changed -/

section Tamper

variable {sha256 : String → String}

structure TestsHash (broken : Option String → String → Bool) : Prop where
  some_iff : ∀ hash expected, broken (some hash) expected = true ↔ hash ≠ expected
  getD_eq : ∀ hash? expected, broken hash? expected = false → hash?.getD expected = expected

theorem testsHash_memory : TestsHash fun ha expected => ha ≠ some expected where
  some_iff ha expected := by simp
  getD_eq ha? expected h := by
    have heq : ha? = some expected := by simpa using h
    rw [heq]
    rfl

theorem testsHash_postgres : TestsHash fun ha expected => ha.any (· ≠ expected) where
  some_iff ha expected := by simp
  getD_eq ha? expected h := by
    cases ha? with
    | none => rfl
    | some ha => simpa using h

variable {broken : Option String → String → Bool} (htests : TestsHash broken) {total i : ℕ}
  {start last : String} {row : StoredRow} {before after : List StoredRow} {texts : Set String}
  {columns : LedgerColumns}

include htests in
theorem verifyStoredFrom_cons {rows : List StoredRow} :
    verifyStoredFrom sha256 broken total last i (row :: rows) =
      if broken row.prevHash last = true ∨
          broken row.entryHash (sha256 (row.columns.canonical last)) = true then ⟨false, i, total⟩
      else verifyStoredFrom sha256 broken total (sha256 (row.columns.canonical last)) (i + 1) rows := by
  rw [verifyStoredFrom]
  by_cases hp : broken row.prevHash last = true
  · simp [hp]
  · by_cases hen : broken row.entryHash (sha256 (row.columns.canonical last)) = true
    · simp [hp, hen]
    · -- a hash that passes is the recomputed one, or there is none
      have hg := htests.getD_eq _ _ (Bool.eq_false_of_not_eq_true hen)
      simp [hp, hen, hg]

include htests in
theorem not_broken_of_linked {ha : String} {ha? : Option String} (h : ha? = some ha) :
    ¬ broken ha? ha = true := by
  rw [h, htests.some_iff]
  exact not_not.mpr rfl

include htests in
theorem verifyStoredFrom_append (hc : StoredChained sha256 start before)
    (ht : HashChain.tip StoredRow.entryHash (some start) before = some last) :
    verifyStoredFrom sha256 broken total start i (before ++ after) =
      verifyStoredFrom sha256 broken total last (i + before.length) after := by
  induction before generalizing start i with
  | nil =>
    cases ht
    rfl
  | cons row before ih =>
    obtain ⟨hpr, hh, hr⟩ := hc
    have hen : row.entryHash = some (sha256 (row.columns.canonical start)) := hh
    have hp := not_or.mpr ⟨not_broken_of_linked htests hpr, not_broken_of_linked htests hen⟩
    have hs : i + 1 + before.length = i + (row :: before).length := by
      rw [length_cons]
      omega
    rw [tip_cons, hen] at ht
    rw [hen] at hr
    rw [cons_append, verifyStoredFrom_cons htests, if_neg hp, ih hr ht, hs]

theorem canonical_eq_iff {columns' : LedgerColumns} (prevHash : String) :
    columns.canonical prevHash = columns'.canonical prevHash ↔ columns.pieces = columns'.pieces := by
  have hg : "\x1f".toList = ['\x1f'] := rfl
  unfold LedgerColumns.canonical LedgerColumns.pieces
  rw [Separated.join_eq_join_iff hg (cons_ne_nil _ _) (cons_ne_nil _ _), flatMap_cons,
    flatMap_cons, append_cancel_left_eq]

/-- The hash does not collide on these texts, and is not the hash that starts a chain. A digest in
hexadecimal has no unit separator. -/
structure HashAssumptions (sha256 : String → String) (texts : Set String) : Prop where
  injOn : Set.InjOn sha256 texts
  ne_zero : ∀ text ∈ texts, sha256 text ≠ ZERO_HASH
  hex : ∀ text, '\x1f' ∉ (sha256 text).toList

def StoredRow.hashedText (row : StoredRow) : String := row.columns.canonical (row.prevHash.getD "")

include htests in
theorem verify_after_ok_iff {ha : String} (hc : StoredChained sha256 ha after) (hn : after ≠ []) :
    (verifyStoredFrom sha256 broken total last i after).ok = true ↔ ha = last := by
  constructor
  · cases after with
    | nil => exact absurd rfl hn
    | cons next after =>
      intro ho
      by_contra hd
      have hb : broken next.prevHash last = true := by
        rw [hc.1]
        exact (htests.some_iff ha last).mpr hd
      rw [verifyStoredFrom_cons htests, if_pos (Or.inl hb)] at ho
      cases ho
  · rintro rfl
    obtain ⟨-, ht⟩ := hc.forall_digest (P := fun ha => ha.isSome) rfl
      fun _ _ h => Option.isSome_map.trans h
    obtain ⟨tip, ht⟩ := Option.isSome_iff_exists.mp ht
    rw [← append_nil after, verifyStoredFrom_append htests hc ht]
    rfl

theorem prevHash_of_canonical_eq {columns' : LedgerColumns} {ha ha' : String}
    (hf : '\x1f' ∉ ha.toList) (hf' : '\x1f' ∉ ha'.toList)
    (h : columns.canonical ha = columns'.canonical ha') : ha = ha' := by
  have hc := congrArg String.toList h
  unfold LedgerColumns.canonical LedgerColumns.fields at hc
  rw [String.toList_intercalate, String.toList_intercalate, map_cons, map_cons, map_cons,
    map_cons, intercalate_cons_cons, intercalate_cons_cons, append_assoc,
    append_assoc] at hc
  exact String.toList_injective (Separated.append_cons_inj hf hf' hc).1

theorem exists_tip (hc : StoredChained sha256 start (before ++ [row])) :
    ∃ last, HashChain.tip StoredRow.entryHash (some start) before = some last ∧
      row.prevHash = some last ∧ row.entryHash = some (sha256 row.hashedText) ∧
      row.hashedText = row.columns.canonical last := by
  obtain ⟨hb, hp, hen⟩ := chained_append_singleton.mp hc
  obtain ⟨-, hti⟩ := hb.forall_digest (P := fun ha => ha.isSome) rfl
    fun _ _ h => Option.isSome_map.trans h
  obtain ⟨last, hl⟩ := Option.isSome_iff_exists.mp hti
  rw [hl] at hp hen
  have ht : row.hashedText = row.columns.canonical last := by
    unfold StoredRow.hashedText
    rw [hp]
    rfl
  exact ⟨last, hl, hp, ht ▸ hen, ht⟩

theorem tip_free (hh : HashAssumptions sha256 texts)
    (hc : StoredChained sha256 ZERO_HASH before)
    (ht : HashChain.tip StoredRow.entryHash (some ZERO_HASH) before = some last) :
    '\x1f' ∉ last.toList := by
  have hf := (hc.forall_digest (P := fun ha => ∀ h ∈ ha, '\x1f' ∉ h.toList) ?_ ?_).2
  · exact hf last ht
  · rintro h ⟨⟩
    unfold ZERO_HASH
    rw [String.toList_ofList, mem_replicate]
    rintro ⟨-, h⟩
    exact absurd h (by decide)
  · rintro last row - h hm
    obtain ⟨prev, -, rfl⟩ := Option.map_eq_some_iff.mp hm
    exact hh.hex _

theorem hash_ne_tip (hh : HashAssumptions sha256 texts)
    (hc : StoredChained sha256 ZERO_HASH (before ++ [row]))
    (ht : ∀ r ∈ before ++ [row], r.hashedText ∈ texts) :
    row.entryHash ≠ HashChain.tip StoredRow.entryHash (some ZERO_HASH) before := by
  induction before using reverseRecOn generalizing row with
  | nil =>
    obtain ⟨-, -, -, hen, -⟩ := exists_tip hc
    rw [hen, tip_nil, ne_eq, Option.some.injEq]
    exact hh.ne_zero _ (ht row (mem_singleton_self row))
  | append_singleton before previous ih =>
    obtain ⟨last, hti, -, hen, hte⟩ := exists_tip hc
    have hb := (chained_append_singleton.mp hc).1
    obtain ⟨last', hti', -, hen', hte'⟩ := exists_tip hb
    have hl : previous.entryHash = some last := by simpa [tip] using hti
    rw [hen, hti]
    intro heq
    -- equal hashes are hashes of equal texts, which start with the hashes before
    have hha : sha256 row.hashedText = sha256 previous.hashedText := by
      rw [hl, Option.some.injEq] at hen'
      rw [← hen']
      exact Option.some.inj heq
    have ht' := hh.injOn (ht row (by simp)) (ht previous (by simp)) hha
    rw [hte, hte'] at ht'
    have hs := prevHash_of_canonical_eq (tip_free hh hb hti)
      (tip_free hh (chained_append_singleton.mp hb).1 hti') ht'
    refine ih hb (fun r hr => ht r (mem_append_left _ hr)) ?_
    rw [hl, hti', hs]

theorem chained_around (hc : StoredChained sha256 start (before ++ row :: after)) :
    StoredChained sha256 start (before ++ [row]) ∧ StoredChained sha256 (sha256 row.hashedText) after := by
  rw [append_cons] at hc
  obtain ⟨hb, ha⟩ := chained_append.mp hc
  obtain ⟨last, -, -, hen, -⟩ := exists_tip hb
  have ht : tip StoredRow.entryHash (some start) (before ++ [row]) =
      some (sha256 row.hashedText) := by simp [tip, hen]
  rw [ht] at ha
  exact ⟨hb, ha⟩

include htests in
theorem change_reported_iff (hh : HashAssumptions sha256 texts)
    (hch : StoredChained sha256 ZERO_HASH (before ++ row :: after)) (ht : row.hashedText ∈ texts)
    (hc : { row with columns := columns }.hashedText ∈ texts) :
    (∀ prevHash entryHash, (after = [] → prevHash = row.prevHash ∧ entryHash = row.entryHash) →
        (verifyStoredFrom sha256 broken total ZERO_HASH 0
          (before ++ ⟨columns, prevHash, entryHash⟩ :: after)).ok = false) ↔
      columns.pieces ≠ row.columns.pieces := by
  obtain ⟨hb, ha⟩ := chained_around hch
  obtain ⟨last, hti, hpr, hen, hca⟩ := exists_tip hb
  have hr : { row with columns := columns }.hashedText = columns.canonical last := by
    unfold StoredRow.hashedText
    rw [hpr]
    rfl
  rw [hr] at hc
  have hs : sha256 row.hashedText = sha256 (columns.canonical last) ↔
      columns.pieces = row.columns.pieces := by
    rw [hh.injOn.eq_iff ht hc, hca, canonical_eq_iff, eq_comm]
  have hv : ∀ prevHash entryHash, verifyStoredFrom sha256 broken total ZERO_HASH 0
      (before ++ ⟨columns, prevHash, entryHash⟩ :: after) = _ := fun prevHash entryHash =>
    (verifyStoredFrom_append htests (chained_append_singleton.mp hb).1 hti).trans
      (verifyStoredFrom_cons htests)
  simp only [hv]
  constructor
  · -- with its own hashes, a row with the same text passes
    intro hre hpi
    have heq := hs.mpr hpi
    have hp := not_or.mpr ⟨not_broken_of_linked htests hpr,
      not_broken_of_linked htests (heq ▸ hen)⟩
    have hf := hre row.prevHash row.entryHash fun _ => ⟨rfl, rfl⟩
    rw [if_neg hp] at hf
    rcases eq_or_ne after [] with rfl | hn
    · cases hf
    · rw [(verify_after_ok_iff htests ha hn).mpr heq] at hf
      cases hf
  · intro hpi prevHash entryHash hl
    have hd := mt hs.mp hpi
    split
    · rfl
    · next hp =>
      rcases eq_or_ne after [] with rfl | hn
      · -- the last row has its old hash
        obtain ⟨-, hha⟩ := hl rfl
        rw [hha, hen] at hp
        exact absurd (Or.inr ((htests.some_iff _ _).mpr hd)) hp
      · rw [Bool.eq_false_iff, ne_eq, verify_after_ok_iff htests ha hn]
        exact hd

include htests in
theorem deletion_reported (hh : HashAssumptions sha256 texts)
    (hc : StoredChained sha256 ZERO_HASH (before ++ row :: after))
    (htx : ∀ r ∈ before ++ row :: after, r.hashedText ∈ texts) (hn : after ≠ []) :
    (verifyStoredFrom sha256 broken total ZERO_HASH 0 (before ++ after)).ok = false := by
  obtain ⟨hb, ha⟩ := chained_around hc
  obtain ⟨last, ht, -, hen, -⟩ := exists_tip hb
  have hd := hash_ne_tip hh hb fun r hr => htx r (by
    rw [append_cons]
    exact mem_append_left _ hr)
  rw [hen, ht, ne_eq, Option.some.injEq] at hd
  rw [verifyStoredFrom_append htests (chained_append_singleton.mp hb).1 ht,
    Bool.eq_false_iff, ne_eq, verify_after_ok_iff htests ha hn]
  exact hd

end Tamper

/-! ## Columns without a separator -/

theorem le_roundToDouble {n : ℕ} (hn : 2 ^ 53 ≤ n) : 2 ^ 53 ≤ roundToDouble n := by
  have hne : n ≠ 0 := by omega
  have hl : 53 ≤ n.log2 := (Nat.le_log2 hne).mpr hn
  -- the leading bit stays, whichever way the others are rounded
  have hp : 2 ^ 52 * 2 ^ (n.log2 + 1 - 53) = 2 ^ n.log2 := by
    rw [← Nat.pow_add]
    congr 1
    omega
  have hq : 2 ^ 52 ≤ n / 2 ^ (n.log2 + 1 - 53) := by
    rw [Nat.le_div_iff_mul_le (Nat.two_pow_pos _), hp]
    exact Nat.log2_self_le hne
  have hb : 2 ^ 53 ≤ n / 2 ^ (n.log2 + 1 - 53) * 2 ^ (n.log2 + 1 - 53) :=
    calc 2 ^ 53 ≤ 2 ^ n.log2 := Nat.pow_le_pow_right (by decide) hl
      _ = 2 ^ 52 * 2 ^ (n.log2 + 1 - 53) := hp.symm
      _ ≤ _ := Nat.mul_le_mul_right _ hq
  unfold roundToDouble
  dsimp only
  split
  · exact hb
  · rw [Nat.add_mul]
    omega

theorem eq_of_numberOfBigint_eq {v v' : Int} (hv : v.natAbs < 2 ^ 53) (h : numberOfBigint v' = v) : v' = v := by
  have ha : v'.natAbs < 2 ^ 53 := by
    by_contra hl
    have hr := le_roundToDouble (Nat.le_of_not_lt hl)
    have hs : v'.sign.natAbs = 1 := Int.natAbs_sign_of_ne_zero (by omega)
    have hn : (numberOfBigint v').natAbs = roundToDouble v'.natAbs := by
      rw [numberOfBigint, Int.natAbs_mul, hs, Nat.one_mul, Int.natAbs_natCast]
    omega
  rw [← numberOfBigint_of_lt ha, h]

theorem natRepr_inj {m n : ℕ} (h : m.repr = n.repr) : m = n := by
  have hd : Nat.toDigits 10 m = Nat.toDigits 10 n := by
    rw [← Nat.toList_repr, ← Nat.toList_repr, h]
  rw [← @Nat.ofDigitChars_ten_toDigits m, hd, Nat.ofDigitChars_ten_toDigits]

theorem minus_append_ne_repr {text : String} {n : ℕ} : "-" ++ text ≠ n.repr := by
  intro h
  have hm : '-' ∈ Nat.toDigits 10 n := by
    rw [← Nat.toList_repr, ← h]
    simp
  exact absurd (Nat.isDigit_of_mem_toDigits (by decide) (by decide) hm) (by decide)

theorem intText_inj {v v' : Int} (h : toString v = toString v') : v = v' := by
  rw [Int.toString_eq_repr, Int.toString_eq_repr, Int.repr_eq_if, Int.repr_eq_if] at h
  split at h
  · split at h
    · have := natRepr_inj h
      omega
    · exact absurd h.symm minus_append_ne_repr
  · split at h
    · exact absurd h minus_append_ne_repr
    · have := natRepr_inj ((String.append_right_inj "-").mp h)
      omega

theorem eq_of_numberText_eq {v? v'? : Option Int} (hv : ∀ v ∈ v?, v.natAbs < 2 ^ 53)
    (h : (v'?.map (toString ∘ numberOfBigint)).getD "" = (v?.map (toString ∘ numberOfBigint)).getD "") :
    v'? = v? := by
  have hn : ∀ v : Int, toString v ≠ "" := by
    intro v
    rw [Int.toString_eq_repr, Int.repr_eq_if]
    split
    · exact Nat.repr_ne_empty
    · simp
  cases v? with
  | none =>
    cases v'? with
    | none => rfl
    | some v' => exact absurd h (hn _)
  | some v =>
    cases v'? with
    | none => exact absurd h.symm (hn _)
    | some v' =>
      have hnu : numberOfBigint v' = v := by
        have ht : toString (numberOfBigint v') = toString (numberOfBigint v) := h
        rw [intText_inj ht, numberOfBigint_of_lt (hv v rfl)]
      rw [eq_of_numberOfBigint_eq (hv v rfl) hnu]

theorem pieces_ne_of_free {columns columns' : LedgerColumns} (hfr : columns.Free)
    (hn : columns'.values ≠ columns.values) : columns'.pieces ≠ columns.pieces := by
  intro hp
  have hg : "\x1f".toList = ['\x1f'] := rfl
  have hf : columns'.fields = columns.fields := by
    unfold LedgerColumns.pieces at hp
    rw [Separated.flatMap_split_of_free hfr.fields] at hp
    exact Separated.eq_of_flatMap_split_eq hg rfl hp
  unfold LedgerColumns.fields at hf
  simp only [cons.injEq, and_true] at hf
  obtain ⟨hd, hj, hs, his, hi, hex, hip, hde⟩ := hf
  apply hn
  unfold LedgerColumns.values
  rw [hd, hj, hs, his, eq_of_numberText_eq hfr.iat hi,
    eq_of_numberText_eq hfr.exp hex, hip, hde]

/-! ## What is reported -/

def hashedTexts (rows : List StoredRow) (changed : StoredRow) : Set String :=
  {text | text = changed.hashedText ∨ ∃ row ∈ rows, text = row.hashedText}

/-! Two requests with algorithms that are not supported. -/

def sampleWrite (agentDid : String) (createdAt : ℕ) : LedgerWrite where
  entry := ⟨none, some agentDid, some "cp", none, none, none, .rejectAlg, some "algorithm=none"⟩
  id := ""
  createdAt := createdAt
  iat := by simp
  exp := by simp

theorem storedRows_sample (sha256 : String → String) (agentDid : String) :
    storedRows sha256 .postgres [sampleWrite agentDid 1, sampleWrite "b" 2] =
      [⟨(sampleWrite agentDid 1).entry.columns, some ZERO_HASH,
          some (computeEntryHash sha256 ZERO_HASH (sampleWrite agentDid 1).entry)⟩,
        ⟨(sampleWrite "b" 2).entry.columns,
          some (computeEntryHash sha256 ZERO_HASH (sampleWrite agentDid 1).entry),
          some (computeEntryHash sha256 (computeEntryHash sha256 ZERO_HASH (sampleWrite agentDid 1).entry)
            (sampleWrite "b" 2).entry)⟩] := by
  rfl

def sampleHash (text : String) : String := "h" ++ (Encodable.encode (text.toList.map Char.toNat)).repr

theorem hashAssumptions_sample (texts : Set String) : HashAssumptions sampleHash texts where
  injOn := by
    intro text _ text' _ h
    have hco := Encodable.encode_injective (natRepr_inj ((String.append_right_inj "h").mp h))
    exact String.toList_injective (map_injective_iff.mpr (fun _ _ => Char.toNat_inj.mp) hco)
  ne_zero := by
    intro text _ h
    have hc := congrArg String.toList h
    unfold sampleHash ZERO_HASH at hc
    rw [String.toList_append, String.toList_ofList] at hc
    exact absurd (cons.inj hc).1 (by decide)
  hex := by
    intro text hm
    unfold sampleHash at hm
    rw [String.toList_append, mem_append, Nat.toList_repr] at hm
    rcases hm with hm | hm
    · exact absurd hm (by decide)
    · exact absurd (Nat.isDigit_of_mem_toDigits (by decide) (by decide) hm) (by decide)

/-- The first request again, cut elsewhere: the agent was `x`, a unit separator and `y`. -/
def recutColumns : LedgerColumns :=
  ⟨none, some "x", some "y\x1fcp", none, none, none, "reject_alg", some "algorithm=none"⟩

theorem recutColumns_ne : recutColumns.values ≠ (sampleWrite "x\x1fy" 1).entry.columns.values := by
  intro h
  have hs := congrArg (fun values => values.2.2.1) h
  exact absurd hs (by decide)

end AcdpControlPlane
