import AcdpControlPlane.Auth.Ledger
import AcdpControlPlane.Common.Trace

/-!
# The ledger under several replicas

`recordPostgres` reads the latest hash and inserts a row, in one transaction. A replica runs one such
transaction at a time; the transactions of different replicas overlap. Under READ COMMITTED a
transaction reads what was committed before its `SELECT`, and nothing keeps two of them from reading the
same row. The table is verified in the order of the starts of the transactions, which need be neither
the order of their reads nor that of their commits.
-/

namespace AcdpControlPlane

open List

/-! ## Transactions -/

/-- A transaction of `recordPostgres` in progress. -/
structure LedgerTransaction (Replica : Type) where
  replica : Replica
  entry : IssuanceLedgerEntry
  createdAt : ℕ
  prevHash : Option String
deriving DecidableEq

structure LedgerState (Replica : Type) where
  rows : List LedgerRow
  inProgress : List (LedgerTransaction Replica)
  started : List ℕ

def LedgerState.initial (Replica : Type) : LedgerState Replica := ⟨[], [], []⟩

inductive LedgerEvent (Replica : Type) where
  | start (replica : Replica) (entry : IssuanceLedgerEntry) (now : ℕ)
  | select (tx : LedgerTransaction Replica)
  | commit (tx : LedgerTransaction Replica) (id : String)
  | rollback (tx : LedgerTransaction Replica)

section Runs

variable {Replica : Type} [DecidableEq Replica] (sha256 : String → String)

def LedgerTransaction.row (tx : LedgerTransaction Replica) (prevHash id : String) : LedgerRow where
  id
  createdAt := tx.createdAt
  entry := tx.entry
  prevHash := some prevHash
  entryHash := some (computeEntryHash sha256 prevHash tx.entry)

/-- One event. A replica has one transaction at a time, and no two start at the same time. -/
inductive LedgerStep : LedgerEvent Replica → LedgerState Replica → LedgerState Replica → Prop where
  | start {s : LedgerState Replica} (replica : Replica) (entry : IssuanceLedgerEntry) (now : ℕ)
      (serial : ∀ tx ∈ s.inProgress, tx.replica ≠ replica) (fresh : now ∉ s.started) :
      LedgerStep (.start replica entry now) s
        { s with
          inProgress := ⟨replica, entry, now, none⟩ :: s.inProgress
          started := now :: s.started }
  -- reads what is committed
  | select {s : LedgerState Replica} (tx : LedgerTransaction Replica) (mem : tx ∈ s.inProgress)
      (unread : tx.prevHash = none) :
      LedgerStep (.select tx) s
        { s with
          inProgress := { tx with prevHash := some (headHash s.rows) } :: s.inProgress.erase tx }
  | commit {s : LedgerState Replica} (tx : LedgerTransaction Replica) (id prevHash : String)
      (mem : tx ∈ s.inProgress) (read : tx.prevHash = some prevHash) :
      LedgerStep (.commit tx id) s
        { s with
          rows := s.rows ++ [tx.row sha256 prevHash id]
          inProgress := s.inProgress.erase tx }
  -- a failure is logged, and the next entry is recorded
  | rollback {s : LedgerState Replica} (tx : LedgerTransaction Replica) (mem : tx ∈ s.inProgress) :
      LedgerStep (.rollback tx) s { s with inProgress := s.inProgress.erase tx }

abbrev LedgerRun (history : List (LedgerEvent Replica × LedgerState Replica))
    (s : LedgerState Replica) : Prop :=
  TracedRun (LedgerStep sha256) (LedgerState.initial Replica) history s

/-- If the transaction of a `SELECT` commits, the rows it read are those that come before its own. -/
def ReadsPredecessors (s : LedgerState Replica) : LedgerEvent Replica × LedgerState Replica → Prop
  | (.select tx, before) =>
    (∃ row ∈ s.rows, row.createdAt = tx.createdAt) →
      ∀ row ∈ s.rows, row ∈ before.rows ↔ row.createdAt < tx.createdAt
  | _ => True

/-- A hash was read by a `SELECT` of the transaction that started at this time. -/
def ReadAt (history : List (LedgerEvent Replica × LedgerState Replica)) (createdAt : ℕ)
    (prevHash : String) : Prop :=
  ∃ tx before, (.select tx, before) ∈ history ∧ tx.createdAt = createdAt ∧
    prevHash = headHash before.rows

structure Recorded (history : List (LedgerEvent Replica × LedgerState Replica))
    (s : LedgerState Replica) : Prop where
  distinct : (s.rows.map LedgerRow.createdAt ++
    s.inProgress.map LedgerTransaction.createdAt).Nodup
  started : ∀ now ∈ s.rows.map LedgerRow.createdAt ++ s.inProgress.map LedgerTransaction.createdAt,
    now ∈ s.started
  read : ∀ tx ∈ s.inProgress, ∀ prevHash ∈ tx.prevHash, ReadAt history tx.createdAt prevHash
  rows : ∀ row ∈ s.rows, ∃ prevHash, ReadAt history row.createdAt prevHash ∧
    HashChain.Linked LedgerRow.prevHash LedgerRow.entryHash (linkHash sha256) (some prevHash) row
  grown : ∀ entry ∈ history, entry.2.rows <+: s.rows

end Runs

section Chain

variable {Replica : Type} [DecidableEq Replica] {sha256 : String → String}
  {history : List (LedgerEvent Replica × LedgerState Replica)} {s s' : LedgerState Replica}
  {event : LedgerEvent Replica} {tx : LedgerTransaction Replica}

omit [DecidableEq Replica] in
theorem ReadAt.cons {entry : LedgerEvent Replica × LedgerState Replica} {createdAt : ℕ}
    {prevHash : String} (h : ReadAt history createdAt prevHash) :
    ReadAt (entry :: history) createdAt prevHash := by
  obtain ⟨tx, before, hm, h⟩ := h
  exact ⟨tx, before, mem_cons_of_mem _ hm, h⟩

theorem Recorded.times (h : Recorded sha256 history s) (mem : tx ∈ s.inProgress) :
    (s.rows.map LedgerRow.createdAt ++ tx.createdAt ::
      (s.inProgress.erase tx).map LedgerTransaction.createdAt).Nodup ∧
    ∀ time ∈ s.rows.map LedgerRow.createdAt ++ tx.createdAt ::
      (s.inProgress.erase tx).map LedgerTransaction.createdAt, time ∈ s.started := by
  have hp := ((perm_cons_erase mem).map LedgerTransaction.createdAt).append_left
    (s.rows.map LedgerRow.createdAt)
  refine ⟨hp.nodup_iff.mp h.distinct, ?_⟩
  intro time ht
  exact h.started time (hp.mem_iff.mpr ht)

omit [DecidableEq Replica] in
theorem Recorded.cons (h : Recorded sha256 history s) (event : LedgerEvent Replica) :
    Recorded sha256 ((event, s) :: history) s where
  distinct := h.distinct
  started := h.started
  read tx ht prevHash hp := (h.read tx ht prevHash hp).cons
  rows row hro := by
    obtain ⟨prevHash, hr, hl⟩ := h.rows row hro
    exact ⟨prevHash, hr.cons, hl⟩
  grown entry hen := by
    rcases mem_cons.mp hen with rfl | hen
    · exact prefix_rfl
    · exact h.grown entry hen

theorem Recorded.step (h : Recorded sha256 history s) (hst : LedgerStep sha256 event s s') :
    Recorded sha256 ((event, s) :: history) s' := by
  have hn := h.cons event
  cases hst with
  | start replica entry now serial fresh =>
    refine ⟨?_, ?_, ?_, hn.rows, hn.grown⟩
    · apply perm_middle.nodup_iff.mpr
      apply nodup_cons.mpr
      refine ⟨?_, h.distinct⟩
      intro hu
      exact fresh (h.started now hu)
    · intro time hti
      rcases mem_cons.mp (perm_middle.mem_iff.mp hti) with rfl | hti
      · exact mem_cons_self
      · exact mem_cons_of_mem _ (h.started time hti)
    · intro tx ht prevHash hp
      rcases mem_cons.mp ht with rfl | ht
      · cases hp
      · exact hn.read tx ht prevHash hp
  | select tx mem unread =>
    refine ⟨(h.times mem).1, (h.times mem).2, ?_, hn.rows, hn.grown⟩
    intro tx' ht' prevHash hp
    rcases mem_cons.mp ht' with rfl | ht'
    · cases hp
      exact ⟨tx, s, mem_cons_self, rfl, rfl⟩
    · exact hn.read tx' (mem_of_mem_erase ht') prevHash hp
  | commit tx id prevHash mem read =>
    -- the time of the transaction becomes the time of its row
    have hs : (s.rows ++ [tx.row sha256 prevHash id]).map LedgerRow.createdAt ++
        (s.inProgress.erase tx).map LedgerTransaction.createdAt =
        s.rows.map LedgerRow.createdAt ++ tx.createdAt ::
          (s.inProgress.erase tx).map LedgerTransaction.createdAt := by
      simp [LedgerTransaction.row]
    refine ⟨hs ▸ (h.times mem).1, hs ▸ (h.times mem).2, ?_, ?_, ?_⟩
    · intro tx' ht' prevHash' hp
      exact hn.read tx' (mem_of_mem_erase ht') prevHash' hp
    · intro row hr
      rcases mem_append.mp hr with hr | hr
      · exact hn.rows row hr
      · rw [mem_singleton.mp hr]
        exact ⟨prevHash, hn.read tx mem prevHash read, rfl, rfl⟩
    · intro entry hen
      exact (hn.grown entry hen).trans (prefix_append _ _)
  | rollback tx mem =>
    have hf := (sublist_cons_self tx.createdAt
      ((s.inProgress.erase tx).map LedgerTransaction.createdAt)).append_left
        (s.rows.map LedgerRow.createdAt)
    refine ⟨(h.times mem).1.sublist hf, ?_, ?_, hn.rows, hn.grown⟩
    · intro time hti
      exact (h.times mem).2 time (hf.subset hti)
    · intro tx' ht' prevHash hp
      exact hn.read tx' (mem_of_mem_erase ht') prevHash hp

theorem recorded_of_run (hr : LedgerRun sha256 history s) : Recorded sha256 history s := by
  refine TracedRun.invariant ?_ (fun _ _ _ _ _ h hs => h.step hs) hr
  exact ⟨nodup_nil, forall_mem_nil _, forall_mem_nil _, forall_mem_nil _,
    forall_mem_nil _⟩

omit [DecidableEq Replica] in
theorem chronological_eq_before (h : Recorded sha256 history s) {before : LedgerState Replica}
    (hse : (.select tx, before) ∈ history) (hre : ReadsPredecessors s (.select tx, before))
    {rows rest : List LedgerRow} {row : LedgerRow} (hs : chronological s.rows = rows ++ row :: rest)
    (ht : tx.createdAt = row.createdAt) : chronological before.rows = rows := by
  have hro : row ∈ s.rows := by
    rw [← mem_chronological, hs]
    simp
  have hg := h.grown _ hse
  have hd : (s.rows.map LedgerRow.createdAt).Nodup := (nodup_append.mp h.distinct).1
  have hso := pairwise_chronological hd
  have hb := pairwise_chronological (hd.sublist (hg.sublist.map _))
  rw [hs] at hso
  obtain ⟨hr, hres, hle⟩ := pairwise_append.mp hso
  -- both lists are in order, and have the same members
  have hm : ∀ other, other ∈ chronological before.rows ↔ other ∈ rows := by
    intro other
    have hif := hre ⟨row, hro, ht.symm⟩ other
    rw [ht] at hif
    rw [mem_chronological]
    constructor
    · intro ho
      have ha : other ∈ rows ++ row :: rest := by
        rw [← hs, mem_chronological]
        exact hg.subset ho
      have hl := (hif (hg.subset ho)).mp ho
      rcases mem_append.mp ha with hi | hi
      · exact hi
      · rcases mem_cons.mp hi with rfl | hi
        · exact absurd hl (Nat.lt_irrefl _)
        · have := (pairwise_cons.mp hres).1 other hi
          omega
    · intro ho
      apply (hif ?_).mpr
      · exact hle other ho row mem_cons_self
      · rw [← mem_chronological, hs]
        exact mem_append_left _ ho
  have hn : ∀ {items : List LedgerRow}, items.Pairwise (fun a b => a.createdAt < b.createdAt) →
      items.Nodup := by
    intro items hit
    apply hit.imp
    rintro a b hl rfl
    exact Nat.lt_irrefl _ hl
  refine Perm.eq_of_pairwise ?_ hb hr ?_
  · intro a b _ _ hab hba
    exact absurd hba (Nat.lt_asymm hab)
  · exact (perm_ext_iff_of_nodup (hn hb) (hn hr)).mpr hm

/-- In every run of any number of replicas: if every transaction that committed read the rows that come
before its own, the table verifies. -/
theorem replicas_chain_ok (hrun : LedgerRun sha256 history s)
    (hreads : ∀ entry ∈ history, ReadsPredecessors s entry) :
    (verifyChainPostgres sha256 s.rows).ok = true := by
  have h := recorded_of_run hrun
  apply verifyChainPostgres_eq_ok
  apply HashChain.chained_of_linked
  intro rows row rest hsp
  have hr : row ∈ s.rows := by
    rw [← mem_chronological, hsp]
    simp
  obtain ⟨prevHash, ⟨tx, before, hs, ht, rfl⟩, hl⟩ := h.rows row hr
  have heq := chronological_eq_before h hs (hreads _ hs) hsp ht
  -- all rows have their hashes, so the hash that was read is the tip of the rows before
  have hha : ∀ other ∈ before.rows, other.entryHash.isSome := by
    intro other ho
    obtain ⟨prev, -, -, hh⟩ := h.rows other ((h.grown _ hs).subset ho)
    rw [hh]
    rfl
  rw [← heq, tip_chronological hha]
  exact hl

/-- A refused signature, as two replicas record it below. -/
def refusedSignature : IssuanceLedgerEntry where
  jti := none
  sub := none
  iss := none
  iat := none
  exp := none
  signerIp := none
  decision := .rejectSignature
  decisionDetail := none

/-- Two replicas that record one after the other. -/
theorem replicas_chain_ok_in_turn :
    ∃ (history : _) (s : LedgerState Bool),
      LedgerRun id history s ∧ s.rows.length = 2 ∧
      (verifyChainPostgres id s.rows).ok = true := by
  have h0 : LedgerRun id [] (LedgerState.initial Bool) := .start
  have h1 := h0.step (.start true refusedSignature 1 (forall_mem_nil _) not_mem_nil)
  have h2 := h1.step (.select ⟨true, refusedSignature, 1, none⟩ mem_cons_self rfl)
  have h3 := h2.step (.commit _ "a" ZERO_HASH mem_cons_self rfl)
  have h4 := h3.step (.start false refusedSignature 2 (by simp [LedgerState.initial]) (by decide))
  have h5 := h4.step (.select ⟨false, refusedSignature, 2, none⟩ mem_cons_self rfl)
  have h6 := h5.step (.commit _ "b" _ mem_cons_self rfl)
  refine ⟨_, _, h6, rfl, replicas_chain_ok h6 ?_⟩
  simp [ReadsPredecessors, LedgerTransaction.row, LedgerState.initial]

/-- Two replicas that read before either commits: both rows are linked to nothing, and the second is
reported as broken. -/
theorem replicas_fork :
    ∃ (history : _) (s : LedgerState Bool),
      LedgerRun id history s ∧
      verifyChainPostgres id s.rows = ⟨false, 1, 2⟩ := by
  have h0 : LedgerRun id [] (LedgerState.initial Bool) := .start
  have h1 := h0.step (.start true refusedSignature 1 (forall_mem_nil _) not_mem_nil)
  have h2 := h1.step (.start false refusedSignature 2 (by simp [LedgerState.initial]) (by decide))
  have h3 := h2.step (.select ⟨true, refusedSignature, 1, none⟩ (by simp [LedgerState.initial]) rfl)
  have h4 := h3.step (.select ⟨false, refusedSignature, 2, none⟩ (by decide) rfl)
  have h5 := h4.step (.commit ⟨true, refusedSignature, 1, some ZERO_HASH⟩ "a" _ (by decide) rfl)
  have h6 := h5.step (.commit ⟨false, refusedSignature, 2, some ZERO_HASH⟩ "b" _ (by decide) rfl)
  exact ⟨_, _, h6, by decide⟩

end Chain

end AcdpControlPlane
