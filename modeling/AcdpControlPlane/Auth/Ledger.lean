import AcdpControlPlane.Common.HashChain
import AcdpControlPlane.Common.Js

/-!
# The issuance ledger

Every decision of `issueToken` is an entry of the ledger (`src/auth/issuance-ledger.service.ts`). An
entry is hashed together with the hash of the entry before it; the fields are joined by the unit
separator. The chain is kept in the process, and, with the durable store, in the table
`issuance_ledger`, whose rows are verified in the order of their creation.
-/

namespace AcdpControlPlane

inductive IssuanceDecision where
  | mint
  | rejectAlg
  | rejectNonce
  | rejectAgentMismatch
  | rejectExpiresMismatch
  | rejectUnpinned
  | rejectKeyIdMismatch
  | rejectKeyIdMalformed
  | rejectSignature
  | rejectInternal
deriving DecidableEq, Repr

def IssuanceDecision.text : IssuanceDecision → String
  | mint => "mint"
  | rejectAlg => "reject_alg"
  | rejectNonce => "reject_nonce"
  | rejectAgentMismatch => "reject_agent_mismatch"
  | rejectExpiresMismatch => "reject_expires_mismatch"
  | rejectUnpinned => "reject_unpinned"
  | rejectKeyIdMismatch => "reject_key_id_mismatch"
  | rejectKeyIdMalformed => "reject_key_id_malformed"
  | rejectSignature => "reject_signature"
  | rejectInternal => "reject_internal"

structure IssuanceLedgerEntry where
  jti : Option String
  sub : Option String
  iss : Option String
  iat : Option Int
  exp : Option Int
  signerIp : Option String
  decision : IssuanceDecision
  decisionDetail : Option String
deriving DecidableEq, Repr

def ZERO_HASH : String := String.ofList (List.replicate 64 '0')

def IssuanceLedgerEntry.canonical (prevHash : String) (e : IssuanceLedgerEntry) : String :=
  String.intercalate "\x1f"
    [prevHash, e.decision.text, e.jti.getD "", e.sub.getD "", e.iss.getD "",
      (e.iat.map toString).getD "", (e.exp.map toString).getD "", e.signerIp.getD "",
      e.decisionDetail.getD ""]

def computeEntryHash (sha256 : String → String) (prevHash : String) (e : IssuanceLedgerEntry) :
    String :=
  sha256 (e.canonical prevHash)

/-- The result of a verification, with the index of the first broken row. -/
structure ChainVerdict where
  ok : Bool
  firstBroken : Int
  total : ℕ
deriving DecidableEq, Repr

/-! ## The chain of a process -/

structure MemoryEntry where
  prevHash : String
  entryHash : String
  row : IssuanceLedgerEntry
deriving DecidableEq, Repr

section Memory

variable (sha256 : String → String)

def recordMemory (chain : List MemoryEntry) (entry : IssuanceLedgerEntry) : List MemoryEntry :=
  let prevHash := HashChain.tip MemoryEntry.entryHash ZERO_HASH chain
  chain ++ [⟨prevHash, computeEntryHash sha256 prevHash entry, entry⟩]

/-- The loop of `verifyChainMemory`, from the `i`-th entry on. -/
def verifyMemoryFrom (total : ℕ) : String → ℕ → List MemoryEntry → ChainVerdict
  | _, _, [] => ⟨true, -1, total⟩
  | prev, i, entry :: chain =>
    if entry.prevHash ≠ prev then ⟨false, i, total⟩
    else if entry.entryHash ≠ computeEntryHash sha256 prev entry.row then ⟨false, i, total⟩
    else verifyMemoryFrom total entry.entryHash (i + 1) chain

def verifyChainMemory (chain : List MemoryEntry) : ChainVerdict :=
  verifyMemoryFrom sha256 chain.length ZERO_HASH 0 chain

def MemoryChained (start : String) : List MemoryEntry → Prop :=
  HashChain.Chained MemoryEntry.prevHash MemoryEntry.entryHash
    (fun prev entry => computeEntryHash sha256 prev entry.row) start

variable {sha256}

theorem verifyMemoryFrom_eq_ok {total i : ℕ} {start : String} {chain : List MemoryEntry}
    (h : MemoryChained sha256 start chain) :
    verifyMemoryFrom sha256 total start i chain = ⟨true, -1, total⟩ := by
  induction chain generalizing start i with
  | nil => rfl
  | cons entry chain ih =>
    obtain ⟨hp, hh, hr⟩ := h
    simp [verifyMemoryFrom, hp, ← hh, ih hr]

theorem memoryChained_recorded (entries : List IssuanceLedgerEntry) :
    MemoryChained sha256 ZERO_HASH (entries.foldl (recordMemory sha256) []) := by
  induction entries using List.reverseRecOn with
  | nil => trivial
  | append_singleton entries entry ih =>
    rw [List.foldl_append]
    apply HashChain.chained_append_singleton.mpr
    exact ⟨ih, rfl, rfl⟩

theorem map_row_recorded (entries : List IssuanceLedgerEntry) :
    (entries.foldl (recordMemory sha256) []).map MemoryEntry.row = entries := by
  induction entries using List.reverseRecOn with
  | nil => rfl
  | append_singleton entries entry ih =>
    rw [List.foldl_append, List.foldl_cons, List.foldl_nil, recordMemory, List.map_append, ih]
    rfl

theorem verifyChainMemory_recorded (entries : List IssuanceLedgerEntry) :
    verifyChainMemory sha256 (entries.foldl (recordMemory sha256) []) =
      ⟨true, -1, entries.length⟩ := by
  have hl := congrArg List.length (@map_row_recorded sha256 entries)
  rw [List.length_map] at hl
  unfold verifyChainMemory
  rw [verifyMemoryFrom_eq_ok (memoryChained_recorded entries), hl]

end Memory

/-! ## The chain of the table -/

/-- A row of `issuance_ledger`. Rows from before the chain have no hashes. -/
structure LedgerRow where
  id : String
  createdAt : ℕ
  entry : IssuanceLedgerEntry
  prevHash : Option String
  entryHash : Option String
deriving DecidableEq, Repr

/-- The order `created_at ASC, id ASC`. -/
def LedgerRow.Precedes (a b : LedgerRow) : Prop :=
  a.createdAt < b.createdAt ∨ a.createdAt = b.createdAt ∧ a.id ≤ b.id

instance : DecidableRel LedgerRow.Precedes := fun _ _ => inferInstanceAs (Decidable (_ ∨ _))

def chronological (rows : List LedgerRow) : List LedgerRow :=
  rows.insertionSort LedgerRow.Precedes

def headHash (rows : List LedgerRow) : String :=
  ((chronological rows).getLast?.bind LedgerRow.entryHash).getD ZERO_HASH

section Table

variable (sha256 : String → String)

/-- The loop of `verifyChainPostgres`, from the `i`-th row on. -/
def verifyRowsFrom (total : ℕ) : String → ℕ → List LedgerRow → ChainVerdict
  | _, _, [] => ⟨true, -1, total⟩
  | prev, i, row :: rows =>
    if row.prevHash.any (· ≠ prev) then ⟨false, i, total⟩
    else
      let recomputed := computeEntryHash sha256 prev row.entry
      if row.entryHash.any (· ≠ recomputed) then ⟨false, i, total⟩
      else verifyRowsFrom total (row.entryHash.getD recomputed) (i + 1) rows

def verifyChainPostgres (rows : List LedgerRow) : ChainVerdict :=
  verifyRowsFrom sha256 rows.length ZERO_HASH 0 (chronological rows)

def linkHash (prev : Option String) (row : LedgerRow) : Option String :=
  prev.map (computeEntryHash sha256 · row.entry)

def RowsChained (start : String) : List LedgerRow → Prop :=
  HashChain.Chained LedgerRow.prevHash LedgerRow.entryHash (linkHash sha256) (some start)

variable {sha256}

theorem verifyRowsFrom_eq_ok {total i : ℕ} {start : String} {rows : List LedgerRow}
    (h : RowsChained sha256 start rows) :
    verifyRowsFrom sha256 total start i rows = ⟨true, -1, total⟩ := by
  induction rows generalizing start i with
  | nil => rfl
  | cons row rows ih =>
    obtain ⟨hp, hh, hr⟩ := h
    have hen : row.entryHash = some (computeEntryHash sha256 start row.entry) := hh
    rw [hen] at hr
    simp [verifyRowsFrom, hp, hen, ih hr]

theorem verifyChainPostgres_eq_ok {rows : List LedgerRow}
    (h : RowsChained sha256 ZERO_HASH (chronological rows)) :
    (verifyChainPostgres sha256 rows).ok = true := by
  unfold verifyChainPostgres
  rw [verifyRowsFrom_eq_ok h]

end Table

instance : Std.Total LedgerRow.Precedes where
  total a b := by
    rcases Nat.lt_trichotomy a.createdAt b.createdAt with hlt | heq | hgt
    · exact Or.inl (Or.inl hlt)
    · rcases String.le_total a.id b.id with hid | hid
      · exact Or.inl (Or.inr ⟨heq, hid⟩)
      · exact Or.inr (Or.inr ⟨heq.symm, hid⟩)
    · exact Or.inr (Or.inl hgt)

instance : IsTrans LedgerRow LedgerRow.Precedes where
  trans a b c hab hbc := by
    rcases hab with hab | ⟨hab, hid⟩ <;> rcases hbc with hbc | ⟨hbc, hid'⟩
    · exact Or.inl (Nat.lt_trans hab hbc)
    · exact Or.inl (hbc ▸ hab)
    · exact Or.inl (hab ▸ hbc)
    · exact Or.inr ⟨hab.trans hbc, String.le_trans hid hid'⟩

theorem pairwise_chronological {rows : List LedgerRow} (h : (rows.map LedgerRow.createdAt).Nodup) :
    (chronological rows).Pairwise fun a b => a.createdAt < b.createdAt := by
  have hs : (chronological rows).Pairwise LedgerRow.Precedes :=
    List.pairwise_insertionSort _ _
  have hn : ((chronological rows).map LedgerRow.createdAt).Nodup :=
    ((List.perm_insertionSort _ rows).map _).nodup_iff.mpr h
  apply (hs.and (List.pairwise_map.mp hn)).imp
  rintro a b ⟨hl | ⟨heq, -⟩, hne⟩
  · exact hl
  · exact absurd heq hne

theorem mem_chronological {rows : List LedgerRow} {row : LedgerRow} :
    row ∈ chronological rows ↔ row ∈ rows := List.mem_insertionSort _

theorem tip_chronological {rows : List LedgerRow} (h : ∀ row ∈ rows, row.entryHash.isSome) :
    HashChain.tip LedgerRow.entryHash (some ZERO_HASH) (chronological rows) =
      some (headHash rows) := by
  unfold HashChain.tip headHash
  cases hl : (chronological rows).getLast? with
  | none => rfl
  | some row =>
    obtain ⟨ha, hh⟩ := Option.isSome_iff_exists.mp
      (h row (mem_chronological.mp (List.mem_of_getLast? hl)))
    simp [hh]

end AcdpControlPlane
