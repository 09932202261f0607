import AcdpControlPlane.Receipt.Audit
import AcdpControlPlane.Storage.Statement
import AcdpControlPlane.Storage.Table

/-!
# The retroactive re-audit

A fact that is recorded after an event was audited cannot have been part of its verdict.
`reauditForFingerprint` of `src/audit/receipt-audit.service.ts` therefore goes over the audits whose
events claim a revoked key, classifies each of them again and amends what has become worse. The
queries are those of `src/storage/receipt-audit.repository.ts`.
-/

namespace AcdpControlPlane

/-! ## Times in the database -/

def CommonEra (t : Int) : Prop :=
  1 ≤ (JsDate.fieldsOf t).year ∧ (JsDate.fieldsOf t).year ≤ 9999

/-- What the database is documented to do with an instant of whole milliseconds: it takes the standard
format for the common era, it keeps the instant, and the engine reads what the driver returns. -/
structure Timestamptz.KeepsMillis (pg : Timestamptz) (otherDates : String → Option Int) : Prop where
  kept : ∀ t u, JsDate.InRange t → pg.read (JsDate.toISOString t) = .ok u → u = 1000 * t
  accepts : ∀ t, CommonEra t → ∃ u, pg.read (JsDate.toISOString t) = .ok u
  rendered : ∀ t, CommonEra t → JsDate.parse otherDates (pg.render (1000 * t)) = some t

variable {t : Int} {pg : Timestamptz} {otherDates : String → Option Int} {revoked : Revoked String}
  {revocations : List KeyRevocation} {candidate : RevocationAmendmentCandidate}

theorem CommonEra.fourDigitYear (h : CommonEra t) : JsDate.FourDigitYear t :=
  ⟨Int.le_trans (by decide) h.1, h.2⟩

theorem CommonEra.inRange (h : CommonEra t) : JsDate.InRange t := by
  -- the range of time values ends in the years -271821 and 275760
  have hl : (JsDate.fieldsOf (-JsDate.MAX_TIME)).Earlier (JsDate.fieldsOf t) :=
    Or.inl (Int.lt_of_lt_of_le (by decide) h.1)
  have hh : (JsDate.fieldsOf t).Earlier (JsDate.fieldsOf JsDate.MAX_TIME) :=
    Or.inl (Int.lt_of_le_of_lt h.2 (by decide))
  exact ⟨Int.le_of_lt (JsDate.fieldsOf_earlier_iff.mp hl),
    Int.le_of_lt (JsDate.fieldsOf_earlier_iff.mp hh)⟩

theorem Timestamptz.KeepsMillis.read_toISOString (hp : pg.KeepsMillis otherDates)
    (ht : CommonEra t) : pg.read (JsDate.toISOString t) = .ok (1000 * t) := by
  obtain ⟨u, hu⟩ := hp.accepts t ht
  rw [hu, hp.kept t u ht.inRange hu]

/-! ## Rows -/

/-- The values of a row, with times as they are given or as they are stored. The four columns of the
classification are one field. -/
structure NewReceiptAudit (Time : Type) where
  eventId : String
  tenantId : String
  runId : Option String
  ctxId : Option String
  registryAuthority : String
  status : ReceiptStatus
  discrepancies : List String
  receiptCreatedAt : Option Time
  eventArrivedAt : Time
  skewMs : Option Int
  keyRevocation : Option (Revoked Time)
deriving DecidableEq, Repr

/-- A row of `receipt_audits`. -/
structure ReceiptAudit extends NewReceiptAudit Int where
  checkedAt : Int
deriving DecidableEq, Repr

abbrev AuditTable := KeyedTable fun row : ReceiptAudit => row.eventId

abbrev EventTable := KeyedTable fun ev : ReceiptEvent => ev.id

structure ReceiptDb where
  events : EventTable
  audits : AuditTable
  facts : FactTable

/-- `toRow` of the receipt audit. -/
def toReceiptRow (ev : ReceiptEvent) (verdict : ReceiptVerdict) : NewReceiptAudit String where
  eventId := ev.id
  tenantId := ev.tenantId
  runId := ev.runId
  ctxId := ev.ctxId
  registryAuthority := ev.registryAuthority
  status := verdict.status
  discrepancies := verdict.discrepancies
  receiptCreatedAt := verdict.receiptCreatedAt
  eventArrivedAt := ev.createdAt
  skewMs := verdict.skewMs
  keyRevocation := verdict.keyRevocation

def Revoked.store (pg : Timestamptz) (revoked : Revoked String) : Except JsError (Revoked Int) :=
  (pg.read revoked.boundary).map fun boundary => { revoked with boundary }

theorem Revoked.store_eq_ok {stored : Revoked Int} (h : revoked.store pg = .ok stored) :
    pg.read revoked.boundary = .ok stored.boundary ∧ stored.status = revoked.status := by
  unfold store at h
  cases hr : pg.read revoked.boundary with
  | error err =>
    rw [hr] at h
    cases h
  | ok boundary =>
    rw [hr] at h
    cases h
    exact ⟨rfl, rfl⟩

/-- The row as it is stored. A text that is no time makes the insertion fail. -/
def NewReceiptAudit.store (pg : Timestamptz) (checkedAt : Int) (row : NewReceiptAudit String) :
    Except JsError ReceiptAudit := do
  let receiptCreatedAt ← row.receiptCreatedAt.mapM pg.read
  let eventArrivedAt ← pg.read row.eventArrivedAt
  let keyRevocation ← row.keyRevocation.mapM (Revoked.store pg)
  return ⟨⟨row.eventId, row.tenantId, row.runId, row.ctxId, row.registryAuthority, row.status,
    row.discrepancies, receiptCreatedAt, eventArrivedAt, row.skewMs, keyRevocation⟩, checkedAt⟩

theorem NewReceiptAudit.store_eq_ok {now : Int} {values : NewReceiptAudit String}
    {row : ReceiptAudit} (h : values.store pg now = .ok row) :
    values.receiptCreatedAt.mapM pg.read = .ok row.receiptCreatedAt ∧
      pg.read values.eventArrivedAt = .ok row.eventArrivedAt ∧
      values.keyRevocation.mapM (Revoked.store pg) = .ok row.keyRevocation ∧
      row.eventId = values.eventId ∧ row.tenantId = values.tenantId ∧ row.status = values.status := by
  unfold store at h
  cases hc : values.receiptCreatedAt.mapM pg.read with
  | error err =>
    rw [hc] at h
    cases h
  | ok receiptCreatedAt =>
  cases ha : pg.read values.eventArrivedAt with
  | error err =>
    rw [hc, ha] at h
    cases h
  | ok eventArrivedAt =>
  cases hr : values.keyRevocation.mapM (Revoked.store pg) with
  | error err =>
    rw [hc, ha, hr] at h
    cases h
  | ok keyRevocation =>
    rw [hc, ha, hr] at h
    cases h
    exact ⟨rfl, rfl, rfl, rfl, rfl, rfl⟩

/-- The stored classification is the one under revocations, for a creation time that may be known. -/
def Revoked.Under (otherDates : String → Option Int) (revocations : List KeyRevocation)
    (createdAt : Option Int) (stored : Revoked Int) : Prop :=
  ∃ least, IsLeastSince otherDates revocations least ∧ stored.boundary = 1000 * least ∧
    stored.status = statusAt createdAt least

theorem Classified.under {createdAt : Option String} {least : Int} {stored : Revoked Int}
    (hp : pg.KeepsMillis otherDates) (h : Classified otherDates revocations createdAt revoked least)
    (hs : revoked.store pg = .ok stored) :
    stored.Under otherDates revocations (createdAt.bind (JsDate.parse otherDates)) := by
  obtain ⟨hr, hst⟩ := Revoked.store_eq_ok hs
  rw [h.boundary] at hr
  exact ⟨least, h.isLeast, hp.kept least _ h.isLeast.inRange hr, hst.trans h.status⟩

/-! ## Candidates -/

def ReceiptAudit.Amendable (row : ReceiptAudit) (boundary : Int) : Prop :=
  ∀ stored ∈ row.keyRevocation, boundary < stored.boundary

instance (row : ReceiptAudit) (boundary : Int) : Decidable (row.Amendable boundary) :=
  inferInstanceAs (Decidable (∀ stored ∈ row.keyRevocation, boundary < stored.boundary))

structure RevocationAmendmentCandidate where
  eventId : String
  status : ReceiptStatus
  receiptCreatedAt : Option String
  registryAuthority : String
deriving DecidableEq, Repr

def candidateOf (pg : Timestamptz) (row : ReceiptAudit) (ev : ReceiptEvent) :
    RevocationAmendmentCandidate :=
  ⟨row.eventId, row.status, row.receiptCreatedAt.map pg.render, ev.registryAuthority⟩

def Claims (tenantId fingerprint : String) (row : ReceiptAudit) (ev : ReceiptEvent) : Prop :=
  ev.id = row.eventId ∧ row.tenantId = tenantId ∧ ev.tenantId = tenantId ∧
    ev.keyFingerprint = some fingerprint

instance (tenantId fingerprint : String) (row : ReceiptAudit) (ev : ReceiptEvent) :
    Decidable (Claims tenantId fingerprint row ev) := inferInstanceAs (Decidable (_ ∧ _))

/-- Without a least time, only a row without a classification is eligible. -/
def ReceiptAudit.Eligible (row : ReceiptAudit) : Option Int → Prop
  | none => row.keyRevocation = none
  | some boundary => row.Amendable boundary

instance (row : ReceiptAudit) : DecidablePred row.Eligible
  | none => inferInstanceAs (Decidable (row.keyRevocation = none))
  | some boundary => inferInstanceAs (Decidable (row.Amendable boundary))

def eligibleCandidates (pg : Timestamptz) (db : ReceiptDb) (tenantId fingerprint : String)
    (globalMinBoundary : Option Int) : List RevocationAmendmentCandidate :=
  db.audits.rows.flatMap fun row =>
    (db.events.rows.filter fun ev =>
      Claims tenantId fingerprint row ev ∧ row.Eligible globalMinBoundary).map (candidateOf pg row)

theorem mem_eligibleCandidates {db : ReceiptDb} {tenantId fingerprint : String}
    {globalMinBoundary : Option Int} :
    candidate ∈ eligibleCandidates pg db tenantId fingerprint globalMinBoundary ↔
      ∃ row ∈ db.audits.rows, ∃ ev ∈ db.events.rows, Claims tenantId fingerprint row ev ∧
        row.Eligible globalMinBoundary ∧ candidateOf pg row ev = candidate := by
  simp only [eligibleCandidates, List.mem_flatMap, List.mem_map, List.mem_filter,
    decide_eq_true_eq, and_assoc]

/-- The order that `random()` gives to a result. -/
structure Shuffle where
  order : List RevocationAmendmentCandidate → List RevocationAmendmentCandidate
  perm : ∀ candidates, (order candidates).Perm candidates

def findRevocationAmendmentCandidates (pg : Timestamptz) (shuffle : Shuffle) (db : ReceiptDb)
    (tenantId fingerprint : String) (globalMinBoundaryIso : Option String) (limit : ℕ) :
    Except JsError (List RevocationAmendmentCandidate) := do
  let globalMinBoundary ← globalMinBoundaryIso.mapM pg.read
  return (shuffle.order (eligibleCandidates pg db tenantId fingerprint globalMinBoundary)).take limit

theorem claims_of_found {shuffle : Shuffle} {db : ReceiptDb} {tenantId fingerprint : String}
    {globalMin : Option String} {limit : ℕ} {candidates : List RevocationAmendmentCandidate}
    (hf : findRevocationAmendmentCandidates pg shuffle db tenantId fingerprint globalMin limit =
      .ok candidates) (hc : candidate ∈ candidates) :
    ∃ row ∈ db.audits.rows, ∃ ev ∈ db.events.rows,
      Claims tenantId fingerprint row ev ∧ candidateOf pg row ev = candidate := by
  unfold findRevocationAmendmentCandidates at hf
  cases hm : globalMin.mapM pg.read with
  | error err =>
    rw [hm] at hf
    cases hf
  | ok boundary =>
    rw [hm] at hf
    cases hf
    have hme := (shuffle.perm _).mem_iff.mp (List.mem_of_mem_take hc)
    obtain ⟨row, hr, ev, hev, hcl, -, heq⟩ := mem_eligibleCandidates.mp hme
    exact ⟨row, hr, ev, hev, hcl, heq⟩

/-! ## Amendments -/

/-- The row after an update that is meant for one row and names the four columns only. -/
def ReceiptAudit.amend (tenantId eventId : String) (amendment : Revoked Int) (row : ReceiptAudit) :
    ReceiptAudit :=
  if row.eventId = eventId ∧ row.tenantId = tenantId ∧ row.Amendable amendment.boundary then
    { row with keyRevocation := some amendment }
  else row

theorem ReceiptAudit.amend_eventId (tenantId eventId : String) (amendment : Revoked Int)
    (row : ReceiptAudit) : (row.amend tenantId eventId amendment).eventId = row.eventId := by
  unfold amend
  split <;> rfl

def amendKeyRevocation (pg : Timestamptz) (tenantId eventId : String) (amendment : Revoked String)
    (audits : AuditTable) : Except JsError (Bool × AuditTable) := do
  let amendment ← amendment.store pg
  return (audits.rows.any fun row =>
      row.eventId = eventId ∧ row.tenantId = tenantId ∧ row.Amendable amendment.boundary,
    audits.modify (ReceiptAudit.amend tenantId eventId amendment)
      (ReceiptAudit.amend_eventId tenantId eventId amendment))

section Passes

variable (sdk : ReceiptSdk) (cfg : ReceiptConfig) (pg : Timestamptz)
  (otherDates : String → Option Int)

/-- The classification of a candidate under the facts of the key its event claims. -/
def classifyCandidate (fingerprint : String) (all : List KeyRevocation)
    (candidate : RevocationAmendmentCandidate) : Except JsError (Option (Revoked String)) :=
  classifyKeyRevocation sdk otherDates
    (filterApplicableRevocations cfg all candidate.registryAuthority) fingerprint
    (verifiedCreatedAt candidate.status candidate.receiptCreatedAt)

def amendCandidate (tenantId fingerprint : String) (all : List KeyRevocation)
    (candidate : RevocationAmendmentCandidate) (audits : AuditTable) :
    Except JsError (Bool × AuditTable) := do
  match ← classifyCandidate sdk cfg otherDates fingerprint all candidate with
  | none => return (false, audits)
  | some classification =>
    amendKeyRevocation pg tenantId candidate.eventId classification audits

/-- One round of the loop. A row that throws is left out. -/
def amendNext (tenantId fingerprint : String) (all : List KeyRevocation) (state : ℕ × AuditTable)
    (candidate : RevocationAmendmentCandidate) : ℕ × AuditTable :=
  match amendCandidate sdk cfg pg otherDates tenantId fingerprint all candidate state.2 with
  | .error _ => state
  | .ok (amendedThisRow, audits) => (if amendedThisRow then state.1 + 1 else state.1, audits)

/-- The least of the normalised times, compared as texts. -/
def globalMinBoundaryIso (all : List KeyRevocation) : Except JsError (Option String) := do
  match ← all.mapM (normalizeDate otherDates ∘ KeyRevocation.compromisedSince) with
  | [] => return none
  | iso :: isos => return some (isos.foldl (fun min iso => if iso < min then iso else min) iso)

/-- The checks before a pass reads anything. -/
def reauditsKey (fingerprint : String) : Bool :=
  cfg.keyRevocationCheckEnabled && sdk.classifyUnderRevocation.isSome &&
    !cfg.keyRevocationIgnoreFingerprints.contains fingerprint

/-- A pass over the audits of events that claim a key: the number of rows it amended, and the tables
after it. -/
def reauditForFingerprint (shuffle : Shuffle) (tenantId fingerprint : String) (db : ReceiptDb) :
    Except JsError (ℕ × ReceiptDb) :=
  if !reauditsKey sdk cfg fingerprint then .ok (0, db)
  else
    let all := db.facts.findByFingerprint fingerprint tenantId
    if all.length = 0 then .ok (0, db)
    else do
      let globalMin ← globalMinBoundaryIso otherDates all
      let candidates ← findRevocationAmendmentCandidates pg shuffle db tenantId fingerprint globalMin
        cfg.receiptAuditBatchSize
      let (amended, audits) :=
        candidates.foldl (amendNext sdk cfg pg otherDates tenantId fingerprint all) (0, db.audits)
      return (amended, { db with audits })

end Passes

/-! ## What amendments do -/

/-- A row after amendments: nothing but its classification differs, and a classification is only
replaced by one with an earlier boundary. -/
structure Tightens (row row' : ReceiptAudit) : Prop where
  columns : { row' with keyRevocation := row.keyRevocation } = row
  boundary : ∀ r ∈ row.keyRevocation, ∃ r' ∈ row'.keyRevocation, r' = r ∨ r'.boundary < r.boundary

namespace Tightens

variable {row row' row'' : ReceiptAudit}

theorem refl (row : ReceiptAudit) : Tightens row row := ⟨rfl, fun r hr => ⟨r, hr, Or.inl rfl⟩⟩

theorem trans (h : Tightens row row') (h' : Tightens row' row'') : Tightens row row'' := by
  constructor
  · calc { row'' with keyRevocation := row.keyRevocation }
      _ = { { row'' with keyRevocation := row'.keyRevocation } with
            keyRevocation := row.keyRevocation } := rfl
      _ = { row' with keyRevocation := row.keyRevocation } := by rw [h'.columns]
      _ = row := h.columns
  · intro r hr
    obtain ⟨r', hr', hl⟩ := h.boundary r hr
    obtain ⟨r'', hr'', hl'⟩ := h'.boundary r' hr'
    refine ⟨r'', hr'', ?_⟩
    obtain rfl | hlt := hl
    · exact hl'
    · obtain rfl | hlt' := hl'
      · exact Or.inr hlt
      · exact Or.inr (Int.lt_trans hlt' hlt)

theorem eventId (h : Tightens row row') : row'.eventId = row.eventId :=
  congrArg (·.eventId) h.columns

theorem tenantId (h : Tightens row row') : row'.tenantId = row.tenantId :=
  congrArg (·.tenantId) h.columns

theorem candidateOf_eq (h : Tightens row row') (pg : Timestamptz) (ev : ReceiptEvent) :
    candidateOf pg row' ev = candidateOf pg row ev := by
  have hc := congrArg (candidateOf pg · ev) h.columns
  exact hc

theorem claims (h : Tightens row row') {tenantId fingerprint : String} {ev : ReceiptEvent}
    (hc : Claims tenantId fingerprint row ev) : Claims tenantId fingerprint row' ev := by
  obtain ⟨hi, ht, hr⟩ := hc
  exact ⟨hi.trans h.eventId.symm, h.tenantId.trans ht, hr⟩

theorem boundary_le (h : Tightens row row') {boundary : Int}
    (hl : ∃ r ∈ row.keyRevocation, r.boundary ≤ boundary) :
    ∃ r ∈ row'.keyRevocation, r.boundary ≤ boundary := by
  obtain ⟨r, hr, hl⟩ := hl
  obtain ⟨r', hr', heq | hlt⟩ := h.boundary r hr
  · exact ⟨r', hr', heq ▸ hl⟩
  · exact ⟨r', hr', Int.le_trans (Int.le_of_lt hlt) hl⟩

end Tightens

section Amendments

variable {tenantId eventId : String} {amendment : Revoked Int} {row row' : ReceiptAudit}

theorem ReceiptAudit.amend_cases (tenantId eventId : String) (amendment : Revoked Int)
    (row : ReceiptAudit) :
    row.amend tenantId eventId amendment = row ∨
      row.eventId = eventId ∧ row.tenantId = tenantId ∧ row.Amendable amendment.boundary ∧
        row.amend tenantId eventId amendment = { row with keyRevocation := some amendment } := by
  unfold amend
  split
  · next h => exact Or.inr ⟨h.1, h.2.1, h.2.2, rfl⟩
  · exact Or.inl rfl

theorem ReceiptAudit.amend_tightens (tenantId eventId : String) (amendment : Revoked Int)
    (row : ReceiptAudit) : Tightens row (row.amend tenantId eventId amendment) := by
  obtain heq | ⟨-, -, ha, heq⟩ := row.amend_cases tenantId eventId amendment
  · rw [heq]
    exact .refl row
  · rw [heq]
    exact ⟨rfl, fun r hr => ⟨amendment, rfl, Or.inr (ha r hr)⟩⟩

theorem ReceiptAudit.amend_boundary_le (hev : row.eventId = eventId) (ht : row.tenantId = tenantId) :
    ∃ r ∈ (row.amend tenantId eventId amendment).keyRevocation,
      r.boundary ≤ amendment.boundary := by
  unfold amend
  split
  · exact ⟨amendment, rfl, Int.le_refl _⟩
  · next hn =>
    have hs : ¬ row.Amendable amendment.boundary := fun h => hn ⟨hev, ht, h⟩
    unfold Amendable at hs
    push Not at hs
    exact hs

theorem ReceiptAudit.amend_eq_self (h : row.eventId = eventId → row.tenantId = tenantId →
      ∃ r ∈ row.keyRevocation, r.boundary ≤ amendment.boundary) :
    row.amend tenantId eventId amendment = row := by
  obtain heq | ⟨hev, ht, ha, -⟩ := row.amend_cases tenantId eventId amendment
  · exact heq
  · obtain ⟨r, hr, hl⟩ := h hev ht
    exact absurd (ha r hr) (Int.not_lt.mpr hl)

def AuditTable.Tightens (audits audits' : AuditTable) : Prop :=
  ∀ row ∈ audits.rows, ∃ row' ∈ audits'.rows, AcdpControlPlane.Tightens row row'

theorem AuditTable.Tightens.refl (audits : AuditTable) : AuditTable.Tightens audits audits :=
  fun row hr => ⟨row, hr, .refl row⟩

theorem AuditTable.Tightens.trans {audits audits' audits'' : AuditTable}
    (h : AuditTable.Tightens audits audits') (h' : AuditTable.Tightens audits' audits'') :
    AuditTable.Tightens audits audits'' := by
  intro row hr
  obtain ⟨row', hr', ht⟩ := h row hr
  obtain ⟨row'', hr'', ht'⟩ := h' row' hr'
  exact ⟨row'', hr'', ht.trans ht'⟩

variable {sdk : ReceiptSdk} {cfg : ReceiptConfig} {pg : Timestamptz}
  {otherDates : String → Option Int} {fingerprint : String} {all : List KeyRevocation}
  {candidate : RevocationAmendmentCandidate}

/-- The amendment that a candidate gets, if nothing throws. It depends on no table. -/
def amendmentFor (sdk : ReceiptSdk) (cfg : ReceiptConfig) (pg : Timestamptz)
    (otherDates : String → Option Int) (fingerprint : String) (all : List KeyRevocation)
    (candidate : RevocationAmendmentCandidate) : Option (Revoked Int) :=
  match classifyCandidate sdk cfg otherDates fingerprint all candidate with
  | .ok (some classification) => (classification.store pg).toOption
  | _ => none

variable {candidates : List RevocationAmendmentCandidate} {state : ℕ × AuditTable}

theorem classified_of_amendmentFor
    (hcls : ∀ classify ∈ sdk.classifyUnderRevocation, Classifies classify)
    (ha : ∀ r ∈ all, r.revokedKeyFingerprint = fingerprint)
    (h : amendmentFor sdk cfg pg otherDates fingerprint all candidate = some amendment) :
    ∃ classification least, classification.store pg = .ok amendment ∧
      Classified otherDates (filterApplicableRevocations cfg all candidate.registryAuthority)
        (verifiedCreatedAt candidate.status candidate.receiptCreatedAt) classification least := by
  unfold amendmentFor at h
  split at h
  · next classification hcl =>
    obtain ⟨least, hc⟩ :=
      classified_of_eq_some hcls (fingerprint_of_mem_filter ha) hcl
    cases hs : classification.store pg with
    | error err =>
      rw [hs] at h
      cases h
    | ok stored =>
      rw [hs] at h
      cases h
      exact ⟨classification, least, hs, hc⟩
  · cases h

theorem under_of_amendmentFor (hcl : ∀ classify ∈ sdk.classifyUnderRevocation, Classifies classify)
    (hp : pg.KeepsMillis otherDates) (ha : ∀ r ∈ all, r.revokedKeyFingerprint = fingerprint)
    (h : amendmentFor sdk cfg pg otherDates fingerprint all candidate = some amendment) :
    amendment.Under otherDates (filterApplicableRevocations cfg all candidate.registryAuthority)
      ((verifiedCreatedAt candidate.status candidate.receiptCreatedAt).bind
        (JsDate.parse otherDates)) := by
  obtain ⟨classification, least, hs, hc⟩ :=
    classified_of_amendmentFor hcl ha h
  exact hc.under hp hs

def AuditTable.amend (tenantId eventId : String) (amendment : Revoked Int) (audits : AuditTable) :
    AuditTable :=
  audits.modify (ReceiptAudit.amend tenantId eventId amendment)
    (ReceiptAudit.amend_eventId tenantId eventId amendment)

theorem amendNext_audits (state : ℕ × AuditTable) :
    (amendNext sdk cfg pg otherDates tenantId fingerprint all state candidate).2 =
      match amendmentFor sdk cfg pg otherDates fingerprint all candidate with
      | none => state.2
      | some amendment => AuditTable.amend tenantId candidate.eventId amendment state.2 := by
  unfold amendNext amendCandidate amendmentFor
  cases classifyCandidate sdk cfg otherDates fingerprint all candidate with
  | error err => rfl
  | ok classification? =>
    cases classification? with
    | none => rfl
    | some classification =>
      unfold amendKeyRevocation
      cases hs : classification.store pg with
      | error err => simp [bind, Except.bind, Except.toOption, hs]
      | ok amendment => simp [bind, Except.bind, Except.toOption, pure, Except.pure, hs,
          AuditTable.amend]

theorem amendNext_tightens (state : ℕ × AuditTable) :
    AuditTable.Tightens state.2
      (amendNext sdk cfg pg otherDates tenantId fingerprint all state candidate).2 := by
  rw [amendNext_audits]
  split
  · exact .refl _
  · next amendment _ =>
    intro row hr
    exact ⟨row.amend tenantId candidate.eventId amendment, KeyedTable.mem_modify.mpr ⟨row, hr, rfl⟩,
      row.amend_tightens tenantId candidate.eventId amendment⟩

theorem amendNext_again {audits audits' : AuditTable} {m n : ℕ} (hro : row ∈ audits.rows)
    (hi : row.eventId = candidate.eventId) (ht : AuditTable.Tightens
      (amendNext sdk cfg pg otherDates tenantId fingerprint all (m, audits) candidate).2 audits') :
    (amendNext sdk cfg pg otherDates tenantId fingerprint all (n, audits') candidate).2 =
      audits' := by
  rw [amendNext_audits] at ht ⊢
  split at ht
  · rfl
  next amendment _ =>
  -- the row has at most the boundary of the amendment since the first round
  obtain ⟨row', hro', hr⟩ := ht (row.amend tenantId candidate.eventId amendment)
    (KeyedTable.mem_modify.mpr ⟨row, hro, rfl⟩)
  have hi' : row'.eventId = candidate.eventId :=
    hr.eventId.trans ((row.amend_eventId _ _ _).trans hi)
  have hte : row'.tenantId = row.tenantId :=
    hr.tenantId.trans (row.amend_tightens _ _ _).tenantId
  apply KeyedTable.ext
  refine (List.map_congr_left ?_).trans (List.map_id _)
  intro other ho
  apply ReceiptAudit.amend_eq_self
  intro hev hti
  cases KeyedTable.eq_of_key_eq ho hro' (hev.trans hi'.symm)
  exact hr.boundary_le (ReceiptAudit.amend_boundary_le hi (hte.symm.trans hti))

theorem foldl_amendNext_tightens (candidates : List RevocationAmendmentCandidate)
    (state : ℕ × AuditTable) :
    AuditTable.Tightens state.2
      (candidates.foldl (amendNext sdk cfg pg otherDates tenantId fingerprint all) state).2 := by
  induction candidates generalizing state with
  | nil => exact .refl _
  | cons candidate candidates ih => exact (amendNext_tightens state).trans (ih _)

theorem foldl_amendNext_row {row' : ReceiptAudit} (hr' : row' ∈
      (candidates.foldl (amendNext sdk cfg pg otherDates tenantId fingerprint all) state).2.rows) :
    ∃ row ∈ state.2.rows, row' = row ∨ ∃ candidate ∈ candidates, ∃ amendment,
      row.eventId = candidate.eventId ∧
      amendmentFor sdk cfg pg otherDates fingerprint all candidate = some amendment ∧
      row' = { row with keyRevocation := some amendment } := by
  induction candidates generalizing state with
  | nil => exact ⟨row', hr', Or.inl rfl⟩
  | cons candidate candidates ih =>
    obtain ⟨middle, hm, hla⟩ := ih hr'
    -- the row before the first round
    have hf : ∃ row ∈ state.2.rows, middle = row ∨ ∃ amendment,
        row.eventId = candidate.eventId ∧
        amendmentFor sdk cfg pg otherDates fingerprint all candidate = some amendment ∧
        middle = { row with keyRevocation := some amendment } := by
      rw [amendNext_audits] at hm
      split at hm
      · exact ⟨middle, hm, Or.inl rfl⟩
      · next amendment ha =>
        obtain ⟨row, hr, rfl⟩ := KeyedTable.mem_modify.mp hm
        refine ⟨row, hr, ?_⟩
        obtain heq | ⟨hi, -, -, heq⟩ := row.amend_cases tenantId candidate.eventId amendment
        · exact Or.inl heq
        · exact Or.inr ⟨amendment, hi, ha, heq⟩
    obtain ⟨row, hr, hf⟩ := hf
    refine ⟨row, hr, ?_⟩
    obtain rfl | ⟨last, hl, amendment, hi, ha, rfl⟩ := hla
    · obtain rfl | ⟨amendment, hi, ha, rfl⟩ := hf
      · exact Or.inl rfl
      · exact Or.inr ⟨candidate, List.mem_cons_self, amendment, hi, ha, rfl⟩
    · refine Or.inr ⟨last, List.mem_cons_of_mem _ hl, amendment, ?_, ha, ?_⟩
      · obtain rfl | ⟨_, _, _, rfl⟩ := hf
        · exact hi
        · exact hi
      · obtain rfl | ⟨_, _, _, rfl⟩ := hf
        · rfl
        · rfl

theorem amendNext_reaches (hr : row ∈ state.2.rows) (hi : row.eventId = candidate.eventId)
    (ht : row.tenantId = tenantId)
    (ha : amendmentFor sdk cfg pg otherDates fingerprint all candidate = some amendment) :
    ∃ row' ∈ (amendNext sdk cfg pg otherDates tenantId fingerprint all state candidate).2.rows,
      Tightens row row' ∧ ∃ r ∈ row'.keyRevocation, r.boundary ≤ amendment.boundary := by
  rw [amendNext_audits, ha]
  exact ⟨row.amend tenantId candidate.eventId amendment,
    KeyedTable.mem_modify.mpr ⟨row, hr, rfl⟩, row.amend_tightens _ _ _,
    ReceiptAudit.amend_boundary_le hi ht⟩

theorem foldl_amendNext_reaches (hm : candidate ∈ candidates) (hr : row ∈ state.2.rows)
    (hi : row.eventId = candidate.eventId) (ht : row.tenantId = tenantId)
    (ha : amendmentFor sdk cfg pg otherDates fingerprint all candidate = some amendment) :
    ∃ row' ∈ (candidates.foldl (amendNext sdk cfg pg otherDates tenantId fingerprint all) state).2.rows,
      Tightens row row' ∧ ∃ r ∈ row'.keyRevocation, r.boundary ≤ amendment.boundary := by
  obtain ⟨before, after, rfl⟩ := List.append_of_mem hm
  rw [List.foldl_append, List.foldl_cons]
  -- the row before the round, after it, and at the end
  obtain ⟨row₁, hr₁, ht₁⟩ := foldl_amendNext_tightens before state row hr
  obtain ⟨row₂, hr₂, ht₂, hl⟩ := amendNext_reaches hr₁ (ht₁.eventId.trans hi)
    (ht₁.tenantId.trans ht) ha
  obtain ⟨row₃, hr₃, ht₃⟩ := foldl_amendNext_tightens after _ row₂ hr₂
  exact ⟨row₃, hr₃, (ht₁.trans ht₂).trans ht₃, ht₃.boundary_le hl⟩

theorem reauditForFingerprint_cases {shuffle : Shuffle} {db db' : ReceiptDb} {amended : ℕ}
    (hp : reauditForFingerprint sdk cfg pg otherDates shuffle tenantId fingerprint db =
      .ok (amended, db')) :
    amended = 0 ∧ db' = db ∨
      reauditsKey sdk cfg fingerprint = true ∧
        (db.facts.findByFingerprint fingerprint tenantId).length ≠ 0 ∧
        ∃ globalMin candidates,
          globalMinBoundaryIso otherDates (db.facts.findByFingerprint fingerprint tenantId) =
            .ok globalMin ∧
          findRevocationAmendmentCandidates pg shuffle db tenantId fingerprint globalMin
            cfg.receiptAuditBatchSize = .ok candidates ∧
          let rounds := candidates.foldl (amendNext sdk cfg pg otherDates tenantId fingerprint
            (db.facts.findByFingerprint fingerprint tenantId)) (0, db.audits)
          amended = rounds.1 ∧ db' = { db with audits := rounds.2 } := by
  unfold reauditForFingerprint at hp
  split at hp
  · cases hp
    exact Or.inl ⟨rfl, rfl⟩
  next hk =>
  dsimp only at hp
  split at hp
  · cases hp
    exact Or.inl ⟨rfl, rfl⟩
  next hn =>
  -- a text that is no time ends the pass, and so does a boundary that the database cannot read
  cases hm : globalMinBoundaryIso otherDates (db.facts.findByFingerprint fingerprint tenantId) with
  | error err =>
    rw [hm] at hp
    cases hp
  | ok globalMin =>
  cases hf : findRevocationAmendmentCandidates pg shuffle db tenantId fingerprint globalMin
      cfg.receiptAuditBatchSize with
  | error err =>
    simp only [hm, hf, bind, Except.bind] at hp
    cases hp
  | ok candidates =>
  simp only [hm, hf, bind, Except.bind] at hp
  cases hp
  exact Or.inr ⟨by simpa using hk, hn, globalMin, candidates, rfl, hf, rfl, rfl⟩

theorem reauditForFingerprint_eq_self {shuffle : Shuffle} {db : ReceiptDb}
    (h : reauditsKey sdk cfg fingerprint = true →
      db.facts.findByFingerprint fingerprint tenantId = []) :
    reauditForFingerprint sdk cfg pg otherDates shuffle tenantId fingerprint db = .ok (0, db) := by
  unfold reauditForFingerprint
  split
  · rfl
  next hk =>
  rw [h (by simpa using hk)]
  rfl

end Amendments

end AcdpControlPlane
