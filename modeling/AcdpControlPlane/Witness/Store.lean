import AcdpControlPlane.Cosign.Quorum
import AcdpControlPlane.Storage.Enrollment
import AcdpControlPlane.Storage.Statement

/-!
# Witness storage

The tables the checkpoint witness writes: the sweep cursors, the evidence rows and the
cosignatures, with the writes of `src/storage/log-witness.repository.ts` and
`src/storage/log-cosignature.repository.ts`. A statement may fail before it is applied, or be
applied and then fail to be acknowledged.
-/

namespace AcdpControlPlane

/-! ## Rows -/

/-- The kinds of dishonesty a sweep reports. -/
inductive WitnessAlertReason where
  | checkpoint_invalid
  | checkpoint_signature_invalid
  | tree_size_regression
  | root_mismatch
  | consistency_failed
  | log_id_changed
deriving DecidableEq, Repr

def WitnessAlertReason.text : WitnessAlertReason → String
  | .checkpoint_invalid => "checkpoint_invalid"
  | .checkpoint_signature_invalid => "checkpoint_signature_invalid"
  | .tree_size_regression => "tree_size_regression"
  | .root_mismatch => "root_mismatch"
  | .consistency_failed => "consistency_failed"
  | .log_id_changed => "log_id_changed"

structure Head where
  logId : String
  size : ℕ
  root : String
deriving DecidableEq, Repr

structure LogWitnessCursor where
  logId : Option String
  lastWitnessedSize : Option ℕ
  lastRootHash : Option String
  consecutiveFailures : ℕ
  alerted : Bool
  lastAlertReason : Option WitnessAlertReason
  lastAlertDetail : Option Json
  lastAlertAt : Option String
  acknowledgedAt : Option String
  acknowledgedBy : Option String
  lastSuccessAt : Option String
  updatedAt : String

def LogWitnessCursor.fresh (now : String) : LogWitnessCursor :=
  ⟨none, none, none, 0, false, none, none, none, none, none, none, now⟩

/-- The retained head of a cursor, when all its columns are set. -/
def LogWitnessCursor.head (cursor : LogWitnessCursor) : Option Head :=
  match cursor.logId, cursor.lastWitnessedSize, cursor.lastRootHash with
  | some logId, some size, some root => some ⟨logId, size, root⟩
  | _, _, _ => none

structure LogWitnessCheckpoint where
  tenantId : String
  registryAuthority : String
  checkpoint : LogCheckpoint
  signatureValid : Bool
  consistencyOk : Option Bool
  quorum : QuorumResult

structure LogCosignatureRow where
  tenantId : String
  registryAuthority : String
  cosignature : LogCosignature
  cosignatureHash : String
deriving DecidableEq, Repr

/-- An emitted alert, to the event stream and the outbound webhooks. -/
structure AlertEvent where
  tenantId : String
  registryAuthority : String
  reason : WitnessAlertReason
  logId : Option String
  ts : String
  detail : Json

structure Db where
  enrollments : EnrollmentTable
  cursors : String → String → Option LogWitnessCursor
  checkpoints : List LogWitnessCheckpoint
  cosignatures : List LogCosignatureRow
  alerts : List AlertEvent

namespace Db

def empty : Db := ⟨.empty, fun _ _ => none, [], [], []⟩

def head (db : Db) (tenantId authority : String) : Option Head :=
  (db.cursors tenantId authority).bind LogWitnessCursor.head

def setCursor (db : Db) (tenantId authority : String) (cursor : LogWitnessCursor) : Db :=
  { db with
    cursors := fun t a => if t = tenantId ∧ a = authority then some cursor else db.cursors t a }

section SetCursor

variable (db : Db) (tenantId authority : String) (cursor : LogWitnessCursor)

@[simp] theorem setCursor_cursors_self :
    (db.setCursor tenantId authority cursor).cursors tenantId authority = some cursor := by
  simp [setCursor]

theorem setCursor_cursors_of_ne {t a : String} (hn : ¬(t = tenantId ∧ a = authority)) :
    (db.setCursor tenantId authority cursor).cursors t a = db.cursors t a := by
  simp [setCursor, hn]

end SetCursor

end Db

/-! ## Statements -/

def Fault.run {α : Type} (fault : Fault) (db : Db) (statement : Db → α × Db) :
    Except JsError α × Db :=
  match fault with
  | .none => (.ok (statement db).1, (statement db).2)
  | .lost => (.error databaseError, db)
  | .unacknowledged => (.error databaseError, (statement db).2)

theorem Fault.run_cases {α : Type} (fault : Fault) (db : Db) (statement : Db → α × Db) :
    (∃ e, fault.run db statement = (.error e, db)) ∨
      (∃ e, fault.run db statement = (.error e, (statement db).2)) ∨
      fault.run db statement = (.ok (statement db).1, (statement db).2) := by
  cases fault with
  | none => exact Or.inr (Or.inr rfl)
  | lost => exact Or.inl ⟨_, rfl⟩
  | unacknowledged => exact Or.inr (Or.inl ⟨_, rfl⟩)

theorem Fault.run_snd {α : Type} {P : Db → Prop} {db : Db} {statement : Db → α × Db} (fault : Fault)
    (hb : P db) (ha : P (statement db).2) : P (fault.run db statement).2 := by
  rcases fault.run_cases db statement with ⟨e, hr⟩ | ⟨e, hr⟩ | hr <;> rw [hr]
  · exact hb
  · exact ha
  · exact ha

def LogWitnessCheckpoint.key (row : LogWitnessCheckpoint) : String × String × ℕ × String :=
  (row.tenantId, row.checkpoint.logId, row.checkpoint.treeSize, row.checkpoint.rootHash)

/-- Record a witnessed checkpoint, once for each tenant and head: whether a row was inserted. -/
def recordCheckpoint (row : LogWitnessCheckpoint) (db : Db) : Bool × Db :=
  if db.checkpoints.any (·.key = row.key) then (false, db)
  else (true, { db with checkpoints := db.checkpoints ++ [row] })

def updateQuorum (key : String × String × ℕ × String) (quorum : QuorumResult) (db : Db) :
    Unit × Db :=
  ((), { db with
    checkpoints := db.checkpoints.map fun row =>
      if row.key = key then { row with quorum := quorum } else row })

def LogWitnessCursor.advance (cursor : LogWitnessCursor) (head : Head) (now : String) :
    LogWitnessCursor :=
  { cursor with
    logId := some head.logId
    lastWitnessedSize := some head.size
    lastRootHash := some head.root
    consecutiveFailures := 0
    alerted := false
    lastAlertReason := none
    lastAlertDetail := none
    acknowledgedAt := none
    acknowledgedBy := none
    lastSuccessAt := some now
    updatedAt := now }

/-- Retain a head, and clear the alert and the failures. -/
def advanceCursor (tenantId authority : String) (head : Head) (now : String) (db : Db) :
    Unit × Db :=
  let existing := (db.cursors tenantId authority).getD (.fresh now)
  ((), db.setCursor tenantId authority (existing.advance head now))

/-- The cursor after an alert. A new reason resets the acknowledgement. -/
def LogWitnessCursor.alert (cursor : LogWitnessCursor) (reason : WitnessAlertReason)
    (detail : Json) (now : String) : LogWitnessCursor :=
  let reasonChanged := cursor.lastAlertReason ≠ some reason
  { cursor with
    alerted := true
    lastAlertReason := some reason
    lastAlertDetail := some detail
    lastAlertAt := some now
    updatedAt := now
    acknowledgedAt := if reasonChanged then none else cursor.acknowledgedAt
    acknowledgedBy := if reasonChanged then none else cursor.acknowledgedBy }

def markAlert (tenantId authority : String) (reason : WitnessAlertReason) (detail : Json)
    (now : String) (db : Db) : (Bool × Option WitnessAlertReason) × Db :=
  let existing := (db.cursors tenantId authority).getD (.fresh now)
  ((existing.alerted, existing.lastAlertReason),
    db.setCursor tenantId authority (existing.alert reason detail now))

def markFailure (tenantId authority : String) (now : String) (db : Db) : Unit × Db :=
  let existing := (db.cursors tenantId authority).getD (.fresh now)
  ((), db.setCursor tenantId authority
    { existing with
      consecutiveFailures := existing.consecutiveFailures + 1
      updatedAt := now })

def acknowledgeAlert (tenantId authority acknowledgedBy now : String) (db : Db) :
    Option LogWitnessCursor × Db :=
  match db.cursors tenantId authority with
  | some cursor =>
    if cursor.alerted then
      let acknowledged : LogWitnessCursor :=
        { cursor with
          acknowledgedAt := some now
          acknowledgedBy := some acknowledgedBy
          updatedAt := now }
      (some acknowledged, db.setCursor tenantId authority acknowledged)
    else (none, db)
  | none => (none, db)

def LogCosignatureRow.key (row : LogCosignatureRow) :
    String × String × String × ℕ × String × String :=
  (row.tenantId, row.cosignature.witnessId, row.cosignature.witnessedCheckpoint.logId,
    row.cosignature.witnessedCheckpoint.treeSize, row.cosignature.witnessedCheckpoint.rootHash,
    row.cosignature.witnessedAt)

/-- Record a cosignature, once for each key: whether a row was inserted. -/
def recordCosignature (row : LogCosignatureRow) (db : Db) : Bool × Db :=
  if db.cosignatures.any (·.key = row.key) then (false, db)
  else (true, { db with cosignatures := db.cosignatures ++ [row] })

/-! ## What the statements leave alone -/

theorem recordCheckpoint_cursors (row : LogWitnessCheckpoint) (db : Db) :
    (recordCheckpoint row db).2.cursors = db.cursors := by
  unfold recordCheckpoint
  split <;> rfl

theorem recordCosignature_cursors (row : LogCosignatureRow) (db : Db) :
    (recordCosignature row db).2.cursors = db.cursors := by
  unfold recordCosignature
  split <;> rfl

structure HeadColumns where
  logId : Option String
  lastWitnessedSize : Option ℕ
  lastRootHash : Option String
deriving DecidableEq, Repr

namespace HeadColumns

def ofHead : Option Head → HeadColumns
  | some head => ⟨some head.logId, some head.size, some head.root⟩
  | none => ⟨none, none, none⟩

def toHead : HeadColumns → Option Head
  | ⟨some logId, some size, some root⟩ => some ⟨logId, size, root⟩
  | _ => none

@[simp] theorem toHead_ofHead (head : Option Head) : (ofHead head).toHead = head := by
  cases head <;> rfl

end HeadColumns

def LogWitnessCursor.headColumns (cursor : LogWitnessCursor) : HeadColumns :=
  ⟨cursor.logId, cursor.lastWitnessedSize, cursor.lastRootHash⟩

/-- The head columns of a registry. A missing row reads as a row of nulls. -/
def Db.headColumns (db : Db) (tenantId authority : String) : HeadColumns :=
  match db.cursors tenantId authority with
  | some cursor => cursor.headColumns
  | none => .ofHead none

theorem Db.head_eq_toHead (db : Db) (tenantId authority : String) :
    db.head tenantId authority = (db.headColumns tenantId authority).toHead := by
  unfold head headColumns
  cases db.cursors tenantId authority with
  | none => rfl
  | some cursor => obtain ⟨_ | logId, _ | size, _ | root⟩ := cursor <;> rfl

theorem Db.headColumns_getD (db : Db) (tenantId authority now : String) :
    ((db.cursors tenantId authority).getD (.fresh now)).headColumns =
      db.headColumns tenantId authority := by
  unfold headColumns
  cases db.cursors tenantId authority with
  | none => rfl
  | some cursor => rfl

@[simp] theorem Db.headColumns_setCursor_self (db : Db) (tenantId authority : String)
    (cursor : LogWitnessCursor) :
    (db.setCursor tenantId authority cursor).headColumns tenantId authority =
      cursor.headColumns := by
  simp [headColumns]

theorem Db.headColumns_setCursor_of_ne (db : Db) {tenantId authority t a : String}
    (cursor : LogWitnessCursor) (hn : ¬(t = tenantId ∧ a = authority)) :
    (db.setCursor tenantId authority cursor).headColumns t a = db.headColumns t a := by
  unfold headColumns
  rw [setCursor_cursors_of_ne _ _ _ _ hn]

/-- Nothing but evidence, alerts and the bookkeeping of cursors differs: the enrollments, the head
columns of every cursor and the cosignatures are the same. -/
structure SameHeads (db db' : Db) : Prop where
  enrollments : db'.enrollments = db.enrollments
  columns : ∀ t a, db'.headColumns t a = db.headColumns t a
  cosignatures : db'.cosignatures = db.cosignatures

namespace SameHeads

theorem refl (db : Db) : SameHeads db db := ⟨rfl, fun _ _ => rfl, rfl⟩

theorem trans {db db' db'' : Db} (h : SameHeads db db') (h' : SameHeads db' db'') :
    SameHeads db db'' where
  enrollments := h'.enrollments.trans h.enrollments
  columns t a := (h'.columns t a).trans (h.columns t a)
  cosignatures := h'.cosignatures.trans h.cosignatures

theorem head {db db' : Db} (h : SameHeads db db') (t a : String) : db'.head t a = db.head t a := by
  rw [Db.head_eq_toHead, Db.head_eq_toHead, h.columns]

theorem setCursor {db : Db} {tenantId authority : String} {cursor : LogWitnessCursor}
    (hc : cursor.headColumns = db.headColumns tenantId authority) :
    SameHeads db (db.setCursor tenantId authority cursor) := by
  refine ⟨rfl, fun t a => ?_, rfl⟩
  by_cases hk : t = tenantId ∧ a = authority
  · obtain ⟨rfl, rfl⟩ := hk
    rw [Db.headColumns_setCursor_self, hc]
  · exact db.headColumns_setCursor_of_ne cursor hk

end SameHeads

section Frames

variable (db : Db) (tenantId authority now : String)

theorem sameHeads_recordCheckpoint (row : LogWitnessCheckpoint) :
    SameHeads db (recordCheckpoint row db).2 := by
  unfold recordCheckpoint
  split
  · exact .refl db
  · exact ⟨rfl, fun _ _ => rfl, rfl⟩

theorem sameHeads_markAlert (reason : WitnessAlertReason) (detail : Json) :
    SameHeads db (markAlert tenantId authority reason detail now db).2 :=
  .setCursor (db.headColumns_getD tenantId authority now)

theorem sameHeads_markFailure : SameHeads db (markFailure tenantId authority now db).2 :=
  .setCursor (db.headColumns_getD tenantId authority now)

theorem sameHeads_acknowledgeAlert (acknowledgedBy : String) :
    SameHeads db (acknowledgeAlert tenantId authority acknowledgedBy now db).2 := by
  unfold acknowledgeAlert
  cases hc : db.cursors tenantId authority with
  | none => exact .refl db
  | some cursor =>
    dsimp only
    split
    · refine .setCursor ?_
      rw [Db.headColumns, hc]
      rfl
    · exact .refl db

theorem sameHeads_run {α : Type} (fault : Fault) {statement : Db → α × Db}
    (h : SameHeads db (statement db).2) : SameHeads db (fault.run db statement).2 :=
  fault.run_snd (.refl db) h

end Frames

end AcdpControlPlane
