import AcdpControlPlane.Witness.Chain

/-!
# Alerts

A registry that is caught raises an alert on its cursor. The alert is emitted, to the event stream
and to the webhooks, when the cursor enters it, and again when its reason changes; an operator may
acknowledge it, and a full success clears it. Two tests decide: the service emits when the cursor
was not alerted or had another reason, and the repository drops the acknowledgement when the reason
differs from the stored one. They agree because a cursor that is not alerted stores no reason.
-/

namespace AcdpControlPlane

open List

open Relation (ReflTransGen)

/-! ## The machine -/

structure AlertColumns where
  alerted : Bool
  lastAlertReason : Option WitnessAlertReason
  lastAlertDetail : Option Json
  lastAlertAt : Option String
  acknowledgedAt : Option String
  acknowledgedBy : Option String

/-- What may happen to them. An alert is heard when its statement is acknowledged. -/
inductive AlertMove where
  | keep
  | advance
  | alert (reason : WitnessAlertReason) (detail : Json) (now : String) (heard : Bool)
  | acknowledge (acknowledgedBy now : String)

namespace AlertMove

def apply (move : AlertMove) (columns : AlertColumns) : AlertColumns :=
  match move with
  | keep => columns
  | advance => ⟨false, none, none, columns.lastAlertAt, none, none⟩
  | alert reason detail now _ =>
    let reasonChanged := columns.lastAlertReason ≠ some reason
    ⟨true, some reason, some detail, some now,
      if reasonChanged then none else columns.acknowledgedAt,
      if reasonChanged then none else columns.acknowledgedBy⟩
  | acknowledge acknowledgedBy now =>
    if columns.alerted then
      { columns with acknowledgedAt := some now, acknowledgedBy := some acknowledgedBy }
    else columns

def emits (move : AlertMove) (columns : AlertColumns) : List WitnessAlertReason :=
  match move with
  | alert reason _ _ true =>
    if columns.alerted = false ∨ columns.lastAlertReason ≠ some reason then [reason] else []
  | _ => []

end AlertMove

/-- A cursor that is not alerted stores no reason and no acknowledgement. -/
def AlertColumns.Settled (columns : AlertColumns) : Prop :=
  columns.alerted = false → columns.lastAlertReason = none ∧ columns.acknowledgedAt = none

namespace AlertColumns

variable {columns : AlertColumns} {move : AlertMove} {reason : WitnessAlertReason}

theorem Settled.apply (h : columns.Settled) : (move.apply columns).Settled := by
  intro hc
  cases move with
  | keep => exact h hc
  | advance => exact ⟨rfl, rfl⟩
  | alert reason detail now hea => cases hc
  | acknowledge acknowledgedBy now =>
    unfold AlertMove.apply at hc ⊢
    dsimp only at hc ⊢
    split at hc
    · next ha =>
      rw [ha] at hc
      cases hc
    · next ha =>
      rw [if_neg ha]
      exact h hc

theorem mem_emits_iff :
    reason ∈ move.emits columns ↔ ∃ detail now, move = .alert reason detail now true ∧
      (columns.alerted = false ∨ columns.lastAlertReason ≠ some reason) := by
  constructor
  · intro hm
    unfold AlertMove.emits at hm
    split at hm
    · next reason' detail now =>
      split at hm
      · next ht =>
        obtain rfl := mem_singleton.mp hm
        exact ⟨detail, now, rfl, ht⟩
      · cases hm
    · cases hm
  · rintro ⟨detail, now, rfl, ht⟩
    unfold AlertMove.emits
    dsimp only
    rw [if_pos ht]
    exact mem_singleton_self _

theorem Settled.surfaces (h : columns.Settled) (hem : reason ∈ move.emits columns) :
    (move.apply columns).alerted = true ∧
      (move.apply columns).lastAlertReason = some reason ∧
      (move.apply columns).acknowledgedAt = none := by
  obtain ⟨detail, now, rfl, ht⟩ := mem_emits_iff.mp hem
  refine ⟨rfl, rfl, ?_⟩
  have hc : columns.lastAlertReason ≠ some reason := by
    rcases ht with hcl | hc
    · rw [(h hcl).1]
      nofun
    · exact hc
  exact if_pos hc

theorem stands_apply (ha : columns.alerted = true)
    (hr : columns.lastAlertReason = some reason) (had : move ≠ .advance)
    (ho : ∀ reason' detail now hea, move = .alert reason' detail now hea →
      reason' = reason) :
    (move.apply columns).alerted = true ∧ (move.apply columns).lastAlertReason = some reason := by
  cases move with
  | keep => exact ⟨ha, hr⟩
  | advance => exact absurd rfl had
  | alert reason' detail now hea =>
    obtain rfl := ho reason' detail now hea rfl
    exact ⟨rfl, rfl⟩
  | acknowledge acknowledgedBy now =>
    unfold AlertMove.apply
    dsimp only
    rw [if_pos ha]
    exact ⟨ha, hr⟩

end AlertColumns

/-! ## The tables run the machine -/

def LogWitnessCursor.alertColumns (cursor : LogWitnessCursor) : AlertColumns :=
  ⟨cursor.alerted, cursor.lastAlertReason, cursor.lastAlertDetail, cursor.lastAlertAt,
    cursor.acknowledgedAt, cursor.acknowledgedBy⟩

/-- The alert columns of a registry. A missing row reads as the column defaults. -/
def Db.alertColumns (db : Db) (tenantId authority : String) : AlertColumns :=
  match db.cursors tenantId authority with
  | some cursor => cursor.alertColumns
  | none => ⟨false, none, none, none, none, none⟩

def Db.emitted (db : Db) (tenantId authority : String) : List WitnessAlertReason :=
  (db.alerts.filter fun event =>
    event.tenantId = tenantId ∧ event.registryAuthority = authority).map AlertEvent.reason

def Action.alertMove (sdk : Sdk) (db : Db) (tenantId authority : String) : Action → AlertMove
  | .pass cfg env enrollment =>
    if enrollment.tenantId = tenantId ∧ enrollment.authority = authority then
      let pass := env.registry authority
      match passVerdict sdk cfg env enrollment db with
      | .witnessed _ _ => if pass.faults.advanceCursor = .lost then .keep else .advance
      | .alert _ reason detail =>
        if pass.faults.markAlert = .lost then .keep
        else .alert reason (.obj detail) pass.now (pass.faults.markAlert = .none)
      | _ => .keep
    else .keep
  | .acknowledge t a acknowledgedBy now fault =>
    if t = tenantId ∧ a = authority ∧ fault ≠ .lost then .acknowledge acknowledgedBy now else .keep
  | .enroll _ _ _ => .keep

structure Moves (move : AlertMove) (tenantId authority : String) (db db' : Db) : Prop where
  columns : db'.alertColumns tenantId authority = move.apply (db.alertColumns tenantId authority)
  emitted : db'.emitted tenantId authority =
    db.emitted tenantId authority ++ move.emits (db.alertColumns tenantId authority)

section Tables

variable {sdk : Sdk} {cfg : WitnessConfig} {env : RegistryEnv} {db db' db'' : Db}
  {tenantId authority t a now : String} {move : AlertMove} {cursor : LogWitnessCursor}

theorem Db.alertColumns_getD (db : Db) (tenantId authority now : String) :
    ((db.cursors tenantId authority).getD (.fresh now)).alertColumns =
      db.alertColumns tenantId authority := by
  unfold alertColumns
  cases db.cursors tenantId authority with
  | none => rfl
  | some cursor => rfl

theorem Moves.keep_of_eq (hc : db'.cursors = db.cursors) (ha : db'.alerts = db.alerts) :
    Moves .keep t a db db' := by
  refine ⟨?_, ?_⟩
  · unfold Db.alertColumns
    rw [hc]
    rfl
  · unfold Db.emitted
    rw [ha]
    exact (append_nil _).symm

theorem Moves.refl (db : Db) : Moves .keep t a db db := .keep_of_eq rfl rfl

theorem Moves.keep_trans (h : Moves .keep t a db db') (h' : Moves move t a db' db'') :
    Moves move t a db db'' := by
  obtain ⟨hc, hem⟩ := h
  have hs : db'.alertColumns t a = db.alertColumns t a := hc
  refine ⟨?_, ?_⟩
  · rw [h'.columns, hs]
  · rw [h'.emitted, hem, hs]
    simp [AlertMove.emits]

theorem Moves.trans_keep (h : Moves move t a db db') (h' : Moves .keep t a db' db'') :
    Moves move t a db db'' := by
  refine ⟨?_, ?_⟩
  · rw [h'.columns, h.columns]
    rfl
  · rw [h'.emitted, h.emitted]
    exact append_nil _

theorem Moves.setCursor_self (hc : cursor.alertColumns =
      move.apply (db.alertColumns tenantId authority))
    (hs : move.emits (db.alertColumns tenantId authority) = []) :
    Moves move tenantId authority db (db.setCursor tenantId authority cursor) := by
  refine ⟨?_, ?_⟩
  · unfold Db.alertColumns
    rw [Db.setCursor_cursors_self]
    exact hc
  · rw [hs, append_nil]
    rfl

theorem Moves.setCursor_of_ne (hn : ¬(t = tenantId ∧ a = authority)) :
    Moves .keep t a db (db.setCursor tenantId authority cursor) := by
  refine ⟨?_, (append_nil _).symm⟩
  unfold Db.alertColumns
  rw [Db.setCursor_cursors_of_ne _ _ _ _ hn]
  rfl

theorem moves_persistEvidence (env : RegistryEnv) (tenantId authority : String)
    (evidence : Option Evidence) :
    Moves .keep t a db (persistEvidence env tenantId authority evidence db) := by
  refine persistEvidence_keeps evidence (.refl db) (fun row db' h => h.trans_keep ?_)
    fun _ _ _ h => h.trans_keep (.keep_of_eq rfl rfl)
  refine .keep_of_eq (recordCheckpoint_cursors row db') ?_
  unfold recordCheckpoint
  split <;> rfl

theorem moves_markFailure : Moves .keep t a db (markFailure tenantId authority now db).2 := by
  by_cases hk : t = tenantId ∧ a = authority
  · obtain ⟨rfl, rfl⟩ := hk
    exact .setCursor_self (db.alertColumns_getD t a now) rfl
  · exact .setCursor_of_ne hk

theorem moves_cosignSafe {checkpoint : LogCheckpoint} :
    Moves .keep t a db (cosignSafe sdk cfg env tenantId authority checkpoint db) := by
  refine cosignSafe_keeps (.refl db) fun _ _ _ _ => .keep_of_eq (recordCosignature_cursors _ db) ?_
  unfold recordCosignature
  split <;> rfl

theorem moves_advanceCursor {hea : Head} :
    Moves .advance tenantId authority db (advanceCursor tenantId authority hea now db).2 := by
  refine .setCursor_self ?_ rfl
  rw [← db.alertColumns_getD tenantId authority now]
  rfl

theorem alertColumns_markAlert (db : Db) (tenantId authority now : String)
    (reason : WitnessAlertReason) (detail : Json) (hea : Bool) :
    (markAlert tenantId authority reason detail now db).2.alertColumns tenantId authority =
      (AlertMove.alert reason detail now hea).apply (db.alertColumns tenantId authority) := by
  unfold markAlert
  rw [← db.alertColumns_getD tenantId authority now]
  unfold Db.alertColumns
  rw [Db.setCursor_cursors_self]
  rfl

theorem emitted_append_event {event : AlertEvent} (ht : event.tenantId = tenantId)
    (ha : event.registryAuthority = authority) :
    ({ db with alerts := db.alerts ++ [event] } : Db).emitted tenantId authority =
      db.emitted tenantId authority ++ [event.reason] := by
  unfold Db.emitted
  simp [ht, ha]

theorem moves_raiseAlert (env : RegistryEnv) (reason : WitnessAlertReason)
    (detail : List (String × Json)) :
    Moves (if env.faults.markAlert = .lost then .keep
        else .alert reason (.obj detail) env.now (env.faults.markAlert = .none))
      tenantId authority db (raiseAlert env tenantId authority reason detail db).2 := by
  have hc := alertColumns_markAlert db tenantId authority env.now reason (.obj detail)
  unfold raiseAlert
  cases env.faults.markAlert with
  | lost => exact .refl db
  | unacknowledged => exact ⟨hc false, (append_nil _).symm⟩
  | none =>
    rw [if_neg (by simp), decide_eq_true (rfl : Fault.none = .none)]
    have hex := db.alertColumns_getD tenantId authority env.now
    have ha := congrArg AlertColumns.alerted hex
    have hr := congrArg AlertColumns.lastAlertReason hex
    dsimp only [LogWitnessCursor.alertColumns] at ha hr
    dsimp only [Fault.run, markAlert]
    rw [ha, hr]
    -- the service reads the columns that the repository has read
    by_cases ht : (db.alertColumns tenantId authority).alerted = false ∨
        (db.alertColumns tenantId authority).lastAlertReason ≠ some reason
    · have hem : (AlertMove.alert reason (.obj detail) env.now true).emits
          (db.alertColumns tenantId authority) = [reason] := if_pos ht
      rw [if_pos (by simpa using ht)]
      refine ⟨hc true, ?_⟩
      rw [emitted_append_event rfl rfl, hem]
      rfl
    · have hem : (AlertMove.alert reason (.obj detail) env.now true).emits
          (db.alertColumns tenantId authority) = [] := if_neg ht
      rw [if_neg (by simpa using ht)]
      refine ⟨hc true, ?_⟩
      rw [hem, append_nil]
      rfl

theorem moves_raiseAlert_of_ne (env : RegistryEnv) (reason : WitnessAlertReason)
    (detail : List (String × Json)) (hn : ¬(t = tenantId ∧ a = authority)) :
    Moves .keep t a db (raiseAlert env tenantId authority reason detail db).2 := by
  refine raiseAlert_keeps (.refl db) (.setCursor_of_ne hn) fun event ht ha db' h => ?_
  -- the emitted event is of the other registry
  refine ⟨h.columns, ?_⟩
  rw [← h.emitted]
  unfold Db.emitted
  have ho : ¬(tenantId = t ∧ authority = a) := fun h => hn ⟨h.1.symm, h.2.symm⟩
  simp [ht, ha, ho]

theorem moves_enact_of_statements (env : RegistryEnv) (verdict : Verdict) {advanced : AlertMove}
    {alerted : WitnessAlertReason → List (String × Json) → AlertMove} (ha : ∀ hea db,
      Moves advanced t a db (advanceCursor tenantId authority hea env.now db).2)
    (hal : ∀ reason detail db,
      Moves (alerted reason detail) t a db (raiseAlert env tenantId authority reason detail db).2) :
    Moves (match verdict with
        | .witnessed _ _ => if env.faults.advanceCursor = .lost then .keep else advanced
        | .alert _ reason detail => alerted reason detail
        | _ => .keep)
      t a db (enact sdk cfg env tenantId authority verdict db).2 := by
  cases verdict with
  | skipped reason => exact .refl db
  | failure reason => exact Fault.run_snd _ (.refl db) moves_markFailure
  | crash err => exact .refl db
  | alert evidence reason detail =>
    exact (moves_persistEvidence env tenantId authority evidence).keep_trans (hal reason detail _)
  | witnessed evidence checkpoint =>
    refine (moves_persistEvidence env tenantId authority evidence).keep_trans ?_
    unfold enact
    cases env.faults.advanceCursor with
    | lost => exact .refl _
    | unacknowledged => exact ha _ _
    | none => exact (ha _ _).trans_keep moves_cosignSafe

theorem moves_enact (env : RegistryEnv) (verdict : Verdict) :
    Moves (match verdict with
        | .witnessed _ _ => if env.faults.advanceCursor = .lost then .keep else .advance
        | .alert _ reason detail =>
          if env.faults.markAlert = .lost then .keep
          else .alert reason (.obj detail) env.now (env.faults.markAlert = .none)
        | _ => .keep)
      tenantId authority db (enact sdk cfg env tenantId authority verdict db).2 :=
  moves_enact_of_statements env verdict (fun _ _ => moves_advanceCursor)
    (fun reason detail _ => moves_raiseAlert env reason detail)

theorem moves_enact_of_ne (env : RegistryEnv) (verdict : Verdict)
    (hn : ¬(t = tenantId ∧ a = authority)) :
    Moves .keep t a db (enact sdk cfg env tenantId authority verdict db).2 := by
  have hk : Moves _ t a db (enact sdk cfg env tenantId authority verdict db).2 :=
    moves_enact_of_statements env verdict (fun _ _ => .setCursor_of_ne hn)
      (fun reason detail _ => moves_raiseAlert_of_ne env reason detail hn)
  cases verdict with
  | witnessed evidence checkpoint => simpa only [ite_self] using hk
  | skipped reason => exact hk
  | failure reason => exact hk
  | crash err => exact hk
  | alert evidence reason detail => exact hk

theorem moves_acknowledgeAlert (acknowledgedBy : String) :
    Moves (.acknowledge acknowledgedBy now) tenantId authority db
      (acknowledgeAlert tenantId authority acknowledgedBy now db).2 := by
  have hco : ∀ cursor, db.cursors tenantId authority = some cursor →
      db.alertColumns tenantId authority = cursor.alertColumns := by
    intro cursor hc
    rw [Db.alertColumns, hc]
  unfold acknowledgeAlert
  split
  · next cursor hc =>
    split
    · next ha =>
      refine .setCursor_self ?_ rfl
      rw [hco cursor hc, AlertMove.apply]
      exact (if_pos ha).symm
    · next ha =>
      refine ⟨?_, (append_nil _).symm⟩
      rw [hco cursor hc, AlertMove.apply]
      exact (if_neg ha).symm
  · next hc =>
    refine ⟨?_, (append_nil _).symm⟩
    rw [Db.alertColumns, hc]
    rfl

variable {action : Action}

theorem moves_sweepRegistry (sdk : Sdk) (db : Db) (cfg : WitnessConfig) (env : SweepEnv)
    (enrollment : RegistryEnrollment) (t a : String) :
    Moves ((Action.pass cfg env enrollment).alertMove sdk db t a) t a db
      (sweepRegistry sdk cfg env enrollment db).2 := by
  refine sweepRegistry_keeps env enrollment ?_ fun _ _ h => h.trans_keep moves_markFailure
  unfold Action.alertMove
  dsimp only
  split
  · next hk =>
    obtain ⟨rfl, rfl⟩ := hk
    exact moves_enact _ _
  · next hk => exact moves_enact_of_ne _ _ fun h => hk ⟨h.1.symm, h.2.symm⟩

theorem step_moves (h : Step sdk action db db') (tenantId authority : String) :
    Moves (action.alertMove sdk db tenantId authority) tenantId authority db db' := by
  cases h with
  | pass cfg env enrollment enrolled => exact moves_sweepRegistry sdk db cfg env enrollment _ _
  | enroll input now fault =>
    exact Fault.run_snd _ (.refl db) (.keep_of_eq rfl rfl)
  | acknowledge t a acknowledgedBy now fault =>
    unfold Action.alertMove
    dsimp only
    split
    · next hk =>
      obtain ⟨rfl, rfl, hf⟩ := hk
      cases fault with
      | lost => exact absurd rfl hf
      | none => exact moves_acknowledgeAlert acknowledgedBy
      | unacknowledged => exact moves_acknowledgeAlert acknowledgedBy
    · next hk =>
      by_cases hs : tenantId = t ∧ authority = a
      · obtain ⟨rfl, rfl⟩ := hs
        obtain rfl : fault = .lost := by
          by_contra hf
          exact hk ⟨rfl, rfl, hf⟩
        exact .refl db
      · refine Fault.run_snd _ (.refl db) ?_
        unfold acknowledgeAlert
        split
        · split
          · exact .setCursor_of_ne hs
          · exact .refl db
        · exact .refl db

theorem settled_of_reaches (h : Reaches sdk Db.empty db) (tenantId authority : String) :
    (db.alertColumns tenantId authority).Settled := by
  induction h with
  | refl => exact fun _ => ⟨rfl, rfl⟩
  | tail _ hs ih =>
    obtain ⟨action, hs⟩ := hs
    rw [(step_moves hs tenantId authority).columns]
    exact ih.apply

/-! ## Emissions -/

/-- Later alerts come first, and rows without one before them. -/
def alertedLater (row row' : String × LogWitnessCursor) : Bool :=
  match row.2.lastAlertAt, row'.2.lastAlertAt with
  | none, _ => true
  | some _, none => false
  | some ts, some ts' => ts' ≤ ts

/-- The alerted cursors of a tenant, among the authorities that have a row: the unacknowledged ones,
or all. -/
def listAlerted (db : Db) (authorities : List String) (tenantId : String)
    (includeAcknowledged : Bool) : List (String × LogWitnessCursor) :=
  let rows := authorities.filterMap fun authority =>
    (db.cursors tenantId authority).map fun cursor => (authority, cursor)
  (rows.filter fun row => row.2.alerted && (includeAcknowledged || row.2.acknowledgedAt.isNone)
    ).insertionSort fun row row' => alertedLater row row'

/-- One event for the registry is emitted between the two tables, for the reason. -/
def Emits (tenantId authority : String) (reason : WitnessAlertReason) (db db' : Db) : Prop :=
  db'.emitted tenantId authority = db.emitted tenantId authority ++ [reason]

/-- A step that neither advances the cursor nor alerts it for another reason. -/
def Uneventful (sdk : Sdk) (tenantId authority : String) (reason : WitnessAlertReason)
    (db db' : Db) : Prop :=
  ∃ action, Step sdk action db db' ∧ action.alertMove sdk db tenantId authority ≠ .advance ∧
    ∀ reason' detail now heard, action.alertMove sdk db tenantId authority =
      .alert reason' detail now heard → reason' = reason

/-- The exits that are failures of the environment, or nothing to witness. -/
def Verdict.Environmental : Verdict → Prop
  | .skipped _ => True
  | .failure _ => True
  | .crash _ => True
  | .alert _ _ _ => False
  | .witnessed _ _ => False

/-- What is said of the emissions for one registry from given tables on. -/
structure AlertsExactly (sdk : Sdk) (tenantId authority : String) (db : Db) : Prop where
  emits_iff : ∀ cfg env enrollment reason, enrollment.tenantId = tenantId →
    enrollment.authority = authority →
    (Emits tenantId authority reason db (sweepRegistry sdk cfg env enrollment db).2 ↔
      (sweepRegistry sdk cfg env enrollment db).1 = ⟨authority, .alert, some reason.text⟩ ∧
      ((db.alertColumns tenantId authority).alerted = false ∨
        (db.alertColumns tenantId authority).lastAlertReason ≠ some reason))
  at_detections : ∀ action db' reason, Step sdk action db db' →
    Emits tenantId authority reason db db' → ∃ cfg env enrollment,
      action = .pass cfg env enrollment ∧ enrollment.tenantId = tenantId ∧
      enrollment.authority = authority ∧
      (sweepRegistry sdk cfg env enrollment db).1 = ⟨authority, .alert, some reason.text⟩
  separated : ∀ action db₁ reason, Step sdk action db db₁ → Emits tenantId authority reason db db₁ →
    ∀ db₂, ReflTransGen (Uneventful sdk tenantId authority reason) db₁ db₂ →
    ∀ action' db₃, Step sdk action' db₂ db₃ → ¬Emits tenantId authority reason db₂ db₃
  surfaces : ∀ action db' reason, Step sdk action db db' → Emits tenantId authority reason db db' →
    (db'.alertColumns tenantId authority).alerted = true ∧
    (db'.alertColumns tenantId authority).acknowledgedAt = none ∧
    ∀ authorities, authority ∈ authorities → ∃ cursor,
      (authority, cursor) ∈ listAlerted db' authorities tenantId false
  keeps_acknowledgement : ∀ cfg env enrollment reason, enrollment.tenantId = tenantId →
    enrollment.authority = authority →
    (sweepRegistry sdk cfg env enrollment db).1 = ⟨authority, .alert, some reason.text⟩ →
    (db.alertColumns tenantId authority).lastAlertReason = some reason →
    let db' := (sweepRegistry sdk cfg env enrollment db).2
    (db'.alertColumns tenantId authority).acknowledgedAt =
        (db.alertColumns tenantId authority).acknowledgedAt ∧
      (db'.alertColumns tenantId authority).acknowledgedBy =
        (db.alertColumns tenantId authority).acknowledgedBy
  environmental : ∀ cfg env enrollment, (passVerdict sdk cfg env enrollment db).Environmental →
    let db' := (sweepRegistry sdk cfg env enrollment db).2
    db'.alertColumns tenantId authority = db.alertColumns tenantId authority ∧
      db'.emitted tenantId authority = db.emitted tenantId authority

variable {reason : WitnessAlertReason}

theorem WitnessAlertReason.text_injective : Function.Injective WitnessAlertReason.text := by
  intro reason reason' h
  cases reason <;> cases reason' <;> first | rfl | (simp [WitnessAlertReason.text] at h)

theorem Moves.emits_iff (h : Moves move tenantId authority db db') :
    Emits tenantId authority reason db db' ↔
      reason ∈ move.emits (db.alertColumns tenantId authority) := by
  unfold Emits
  rw [h.emitted, append_cancel_left_eq]
  constructor
  · intro heq
    rw [heq]
    exact mem_singleton_self reason
  · intro hm
    obtain ⟨detail, now, rfl, ht⟩ := AlertColumns.mem_emits_iff.mp hm
    exact if_pos ht

theorem outcome_alert_iff (cfg : WitnessConfig) (env : SweepEnv) (enrollment : RegistryEnrollment) :
    (sweepRegistry sdk cfg env enrollment db).1 =
        ⟨enrollment.authority, .alert, some reason.text⟩ ↔
      ∃ detail now, (Action.pass cfg env enrollment).alertMove sdk db enrollment.tenantId
        enrollment.authority = .alert reason detail now true := by
  rw [sweepRegistry_outcome]
  unfold Action.alertMove
  simp only [and_self, if_true]
  cases passVerdict sdk cfg env enrollment db with
  | skipped reason => simp [Verdict.outcome]
  | failure reason => simp [Verdict.outcome]
  | crash err => simp [Verdict.outcome]
  | witnessed evidence checkpoint =>
    unfold Verdict.outcome
    dsimp only
    split <;> split <;> simp
  | alert evidence reason' detail =>
    unfold Verdict.outcome
    cases (env.registry enrollment.authority).faults.markAlert with
    | lost => simp
    | unacknowledged => simp
    | none => simp [WitnessAlertReason.text_injective.eq_iff]

theorem pass_of_alertMove {detail : Json} {now : String} {hea : Bool}
    (h : action.alertMove sdk db tenantId authority = .alert reason detail now hea) :
    ∃ cfg env enrollment, action = .pass cfg env enrollment ∧ enrollment.tenantId = tenantId ∧
      enrollment.authority = authority := by
  cases action with
  | pass cfg env enrollment =>
    unfold Action.alertMove at h
    dsimp only at h
    split at h
    · next hk => exact ⟨cfg, env, enrollment, rfl, hk⟩
    · cases h
  | acknowledge t a acknowledgedBy now fault =>
    unfold Action.alertMove at h
    dsimp only at h
    split at h <;> cases h
  | enroll input now fault => cases h

theorem alertMove_of_environmental {cfg : WitnessConfig} {env : SweepEnv}
    {enrollment : RegistryEnrollment} (h : (passVerdict sdk cfg env enrollment db).Environmental) :
    (Action.pass cfg env enrollment).alertMove sdk db tenantId authority = .keep := by
  unfold Action.alertMove
  dsimp only
  split
  · cases hv : passVerdict sdk cfg env enrollment db with
    | skipped reason => rfl
    | failure reason => rfl
    | crash err => rfl
    | alert evidence reason detail =>
      rw [hv] at h
      exact h.elim
    | witnessed evidence checkpoint =>
      rw [hv] at h
      exact h.elim
  · rfl

theorem mem_listAlerted {authorities : List String} (hm : authority ∈ authorities)
    (ha : (db.alertColumns tenantId authority).alerted = true)
    (hu : (db.alertColumns tenantId authority).acknowledgedAt = none) :
    ∃ cursor, (authority, cursor) ∈ listAlerted db authorities tenantId false := by
  unfold Db.alertColumns at ha hu
  cases hc : db.cursors tenantId authority with
  | none =>
    rw [hc] at ha
    cases ha
  | some cursor =>
    rw [hc] at ha hu
    refine ⟨cursor, ?_⟩
    unfold listAlerted
    rw [mem_insertionSort, mem_filter]
    refine ⟨mem_filterMap.mpr ⟨authority, hm, ?_⟩, ?_⟩
    · rw [hc]
      rfl
    · have ha' : cursor.alerted = true := ha
      have hu' : cursor.acknowledgedAt = none := hu
      simp [ha', hu']

/-- **Alerts are emitted exactly.** In every run of passes, acknowledgements and enrollments, under
every fault: a detection is emitted if and only if the cursor was not alerted or stored another
reason, and nothing else is; between two emissions for one reason the cursor is advanced or alerted
for another; after an emission the cursor is on the worklist; a repeated detection keeps its
acknowledgement; and a failure of the environment changes nothing of this. -/
theorem alerts_exactly (sdk : Sdk) (tenantId authority : String) {db : Db}
    (hdb : Reaches sdk Db.empty db) : AlertsExactly sdk tenantId authority db where
  emits_iff := by
    rintro cfg env enrollment reason rfl rfl
    rw [(moves_sweepRegistry sdk db cfg env enrollment _ _).emits_iff, AlertColumns.mem_emits_iff,
      outcome_alert_iff]
    constructor
    · rintro ⟨detail, now, hm, ht⟩
      exact ⟨⟨detail, now, hm⟩, ht⟩
    · rintro ⟨⟨detail, now, hm⟩, ht⟩
      exact ⟨detail, now, hm, ht⟩
  at_detections := by
    intro action db' reason hst hem
    rw [(step_moves hst tenantId authority).emits_iff, AlertColumns.mem_emits_iff] at hem
    obtain ⟨detail, now, hm, -⟩ := hem
    obtain ⟨cfg, env, enrollment, rfl, rfl, rfl⟩ := pass_of_alertMove hm
    exact ⟨cfg, env, enrollment, rfl, rfl, rfl,
      (outcome_alert_iff cfg env enrollment).mpr ⟨detail, now, hm⟩⟩
  separated := by
    intro action db₁ reason hst hem db₂ hru action' db₃ hst'
    have hmv := step_moves hst tenantId authority
    have hs := (settled_of_reaches hdb tenantId authority).surfaces (hmv.emits_iff.mp hem)
    rw [← hmv.columns] at hs
    have hsta : (db₂.alertColumns tenantId authority).alerted = true ∧
        (db₂.alertColumns tenantId authority).lastAlertReason = some reason := by
      clear hst'
      induction hru with
      | refl => exact ⟨hs.1, hs.2.1⟩
      | tail _ hq ih =>
        obtain ⟨quiet, hq, ha, ho⟩ := hq
        obtain ⟨ha', hr'⟩ := ih
        rw [(step_moves hq tenantId authority).columns]
        exact AlertColumns.stands_apply ha' hr' ha ho
    rw [(step_moves hst' tenantId authority).emits_iff]
    intro hme
    obtain ⟨detail, now, -, ht⟩ := AlertColumns.mem_emits_iff.mp hme
    rcases ht with hcl | hch
    · rw [hsta.1] at hcl
      cases hcl
    · exact hch hsta.2
  surfaces := by
    intro action db' reason hst hem
    have hmv := step_moves hst tenantId authority
    have hs := (settled_of_reaches hdb tenantId authority).surfaces (hmv.emits_iff.mp hem)
    rw [← hmv.columns] at hs
    refine ⟨hs.1, hs.2.2, ?_⟩
    intro authorities hme
    exact mem_listAlerted hme hs.1 hs.2.2
  keeps_acknowledgement := by
    rintro cfg env enrollment reason rfl rfl hou hr
    obtain ⟨detail, now, hm⟩ := (outcome_alert_iff cfg env enrollment).mp hou
    have hc := (moves_sweepRegistry sdk db cfg env enrollment
      enrollment.tenantId enrollment.authority).columns
    rw [hm] at hc
    dsimp only
    rw [hc]
    exact ⟨if_neg (not_not.mpr hr), if_neg (not_not.mpr hr)⟩
  environmental := by
    intro cfg env enrollment hen
    have hmv := moves_sweepRegistry sdk db cfg env enrollment tenantId authority
    rw [alertMove_of_environmental hen] at hmv
    exact ⟨hmv.columns, hmv.emitted.trans (append_nil _)⟩

theorem alerts_exactly_sampleAnchored :
    Emits "default" "r.example" .consistency_failed sampleAnchored
      (sweepRegistry sampleSdk sampleConfig (sampleAnswering 2 fun _ => .ok ⟨404, .ok .null⟩)
        (sampleInput.newRow "") sampleAnchored).2 := by
  have hex := alerts_exactly sampleSdk "default" "r.example" reaches_sampleAnchored
  refine (hex.emits_iff _ _ _ .consistency_failed rfl rfl).mpr ⟨?_, Or.inl ?_⟩
  · decide +kernel
  · decide +kernel

end Tables

end AcdpControlPlane
