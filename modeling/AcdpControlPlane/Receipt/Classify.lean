import AcdpControlPlane.Date.Text
import AcdpControlPlane.Receipt.Verify
import AcdpControlPlane.Revocation.Sweep

/-!
# Classifying a signer under the revocations of its key

A receipt may be perfectly honest while the key that signed the context is revoked. The audit
therefore classifies every event against the facts that name its signer: the earliest
`compromised_since` is the boundary, and only a creation time that was itself verified, and that lies
before the boundary, saves the event. This is `classifyKeyRevocation` and what leads to it in
`src/audit/receipt-audit.service.ts`.
-/

namespace AcdpControlPlane

open List JsDate

/-! ## Classifications -/

/-- The statuses other than `none`. -/
inductive RevokedStatus where
  | pre_compromise
  | revoked_at_or_after
  | revoked_time_unverifiable
deriving DecidableEq, Repr

/-- A classification that is not `none`; its boundary is a text where it is computed and an instant
where it is stored. An absent classification is `none`, with no boundary, trust class or sources. -/
structure Revoked (Boundary : Type) where
  status : RevokedStatus
  boundary : Boundary
  trustClass : TrustClass
  sources : List (String × String)
deriving DecidableEq, Repr

/-- Whose attestations of foreign keys count. -/
inductive AttestedScope where
  | off
  | same_registry
  | global
deriving DecidableEq, Repr

structure ReceiptConfig where
  keyRevocationCheckEnabled : Bool
  keyRevocationIgnoreFingerprints : List String
  keyRevocationAttestedScope : AttestedScope
  receiptAuditBatchSize : ℕ

def TrustClass.text : TrustClass → String
  | .producer_signed => "producer_signed"
  | .registry_attested => "registry_attested"

def toRevocationJson (r : KeyRevocation) : Json :=
  let text? (s : Option String) : Json := (s.map Json.str).getD .null
  .obj [("revoked_key_fingerprint", .str r.revokedKeyFingerprint),
    ("compromised_since", .str r.compromisedSince), ("reason", text? r.reason),
    ("revoked_key_id", text? r.revokedKeyId),
    ("revoked_key_controller", .str r.revokedKeyController), ("publisher", .str r.publisher),
    ("trust_class", .str r.trustClass.text)]

/-- The text `new Date(text).toISOString()`, which throws on an invalid date. -/
def normalizeDate (otherDates : String → Option Int) (text : String) : Except JsError String :=
  match JsDate.parse otherDates text with
  | some t => .ok (JsDate.toISOString t)
  | none => .error ⟨"Invalid time value"⟩

def normalizeRevocation (otherDates : String → Option Int) (r : KeyRevocation) :
    Except JsError KeyRevocation :=
  (normalizeDate otherDates r.compromisedSince).map fun text => { r with compromisedSince := text }

/-- The trust class of the revocations at the boundary; the stronger one wins a tie. -/
def boundaryTrustClass (normalized : List KeyRevocation) (boundary : String) : TrustClass :=
  let atBoundary := normalized.filter (·.compromisedSince = boundary)
  let winners := if 0 < atBoundary.length then atBoundary else normalized
  match winners.find? (·.trustClass = .producer_signed), winners.head? with
  | some r, _ => r.trustClass
  | none, some r => r.trustClass
  | none, none => .producer_signed

/-- The status that an answer with a boundary stands for. The binding does not say whether it was
given a creation time. -/
def revokedStatus (authorization : Option String) (receiptCreatedAt : Option String) :
    RevokedStatus :=
  if authorization = some "historically_authorized_pre_compromise" then .pre_compromise
  else if receiptCreatedAt = none then .revoked_time_unverifiable
  else .revoked_at_or_after

/-- Classify a signer under revocations that apply to it. Whether one applies is read off the
presence of a boundary. -/
def classifyKeyRevocation (sdk : ReceiptSdk) (otherDates : String → Option Int)
    (revocations : List KeyRevocation) (signerFingerprint : String)
    (receiptCreatedAt : Option String) : Except JsError (Option (Revoked String)) :=
  if revocations.length = 0 then .ok none
  else
    match sdk.classifyUnderRevocation with
    | none => .ok none
    | some classifyUnderRevocation => do
      let normalized ← revocations.mapM (normalizeRevocation otherDates)
      let createdAt ← receiptCreatedAt.mapM (normalizeDate otherDates)
      let parsed ←
        classifyUnderRevocation (.arr (normalized.map toRevocationJson)) signerFingerprint createdAt
      match parsed, parsed.member "boundary" with
      | .null, _ => .error ⟨"Cannot read properties of null (reading 'boundary')"⟩
      | _, some (.str boundary) =>
        .ok (some ⟨revokedStatus (Json.strOf (parsed.member "authorization")) receiptCreatedAt,
          boundary, boundaryTrustClass normalized boundary,
          revocations.map fun r => (r.ctxId, r.publisher)⟩)
      | _, _ => .ok none

/-! ## Facts that apply -/

def FactTable.findByFingerprint (table : FactTable) (fingerprint tenantId : String) :
    List KeyRevocation :=
  table.rows.filter fun r => r.tenantId = tenantId ∧ r.revokedKeyFingerprint = fingerprint

/-- An attestation counts by the scope. The publisher of one was bound to the registry that served it;
the origin a body claims is not looked at. -/
def filterApplicableRevocations (cfg : ReceiptConfig) (all : List KeyRevocation)
    (registryAuthority : String) : List KeyRevocation :=
  all.filter fun r =>
    match r.trustClass, cfg.keyRevocationAttestedScope with
    | .producer_signed, _ => true
    | .registry_attested, .off => false
    | .registry_attested, .global => true
    | .registry_attested, .same_registry => authorityToDidWeb registryAuthority = some r.publisher

/-! ## Verdicts -/

inductive ReceiptStatus where
  | verified
  | verified_historical
  | structural
  | discrepancy
  | no_receipt
  | error
deriving DecidableEq, Repr

def ReceiptStatus.isVerified : ReceiptStatus → Bool
  | .verified => true
  | .verified_historical => true
  | _ => false

/-- A verdict about a receipt, before the signer is classified. -/
structure BaseVerdict where
  status : ReceiptStatus
  discrepancies : List String
  receiptCreatedAt : Option String
  skewMs : Option Int
deriving DecidableEq, Repr

structure ReceiptVerdict extends BaseVerdict where
  keyRevocation : Option (Revoked String)
deriving DecidableEq, Repr

/-- A creation time counts only if the receipt that states it was verified in full. -/
def verifiedCreatedAt (status : ReceiptStatus) (receiptCreatedAt : Option String) : Option String :=
  if status.isVerified then receiptCreatedAt else none

section Live

variable (sdk : ReceiptSdk) (cfg : ReceiptConfig) (otherDates : String → Option Int)

def classifyRevocationForEvent (facts : Except JsError FactTable) (ev : PublishEvent)
    (signerFingerprint : String) (receiptCreatedAt : Option String) :
    Except JsError (Option (Revoked String)) :=
  match facts with
  | .error err => .error err
  | .ok table =>
    let all := table.findByFingerprint signerFingerprint ev.tenantId
    if all.length = 0 then .ok none
    else if cfg.keyRevocationIgnoreFingerprints.contains signerFingerprint then .ok none
    else
      classifyKeyRevocation sdk otherDates
        (filterApplicableRevocations cfg all ev.registryAuthority) signerFingerprint receiptCreatedAt

/-- Add the classification to a verdict. The signer is the one the audit derived, or else the one the
event claims. -/
def withRevocationClassification (facts : Except JsError FactTable) (ev : PublishEvent)
    (base : BaseVerdict) (producerFp : Option String) : Except JsError ReceiptVerdict :=
  if !cfg.keyRevocationCheckEnabled then .ok ⟨base, none⟩
  else
    match truthy (producerFp.or ev.keyFingerprint) with
    | none => .ok ⟨base, none⟩
    | some signerFingerprint =>
      (classifyRevocationForEvent sdk cfg otherDates facts ev signerFingerprint
        (verifiedCreatedAt base.status base.receiptCreatedAt)).map (⟨base, ·⟩)

end Live

/-! ## What a classification says -/

def KeyRevocation.since (otherDates : String → Option Int) (r : KeyRevocation) : Option Int :=
  JsDate.parse otherDates r.compromisedSince

structure IsLeastSince (otherDates : String → Option Int) (revocations : List KeyRevocation)
    (least : Int) : Prop where
  attained : ∃ r ∈ revocations, r.since otherDates = some least
  le : ∀ r ∈ revocations, ∀ t, r.since otherDates = some t → least ≤ t

/-- The status of an event that was created at a time, if that is known, under a boundary. -/
def statusAt (createdAt : Option Int) (boundary : Int) : RevokedStatus :=
  match createdAt with
  | none => .revoked_time_unverifiable
  | some t => if t < boundary then .pre_compromise else .revoked_at_or_after

/-- The stronger trust class is reported if one of the revocations at the boundary has it. -/
def TrustClassAt (otherDates : String → Option Int) (revocations : List KeyRevocation) (least : Int)
    (trustClass : TrustClass) : Prop :=
  trustClass = .producer_signed ↔
    ∃ r ∈ revocations, r.since otherDates = some least ∧ r.trustClass = .producer_signed

/-- A classification under revocations, with the instant of its boundary. -/
structure Classified (otherDates : String → Option Int) (revocations : List KeyRevocation)
    (createdAt : Option String) (revoked : Revoked String) (least : Int) : Prop where
  dated : ∀ r ∈ revocations, (r.since otherDates).isSome
  created : ∀ text ∈ createdAt, (JsDate.parse otherDates text).isSome
  isLeast : IsLeastSince otherDates revocations least
  boundary : revoked.boundary = JsDate.toISOString least
  status : revoked.status = statusAt (createdAt.bind (JsDate.parse otherDates)) least
  trustClass : TrustClassAt otherDates revocations least revoked.trustClass

/-- What the binding is documented to answer for revocations of one key: the least of their times as
the boundary, and that the creation time is before it exactly if it is. -/
structure Classifies (classify : Json → String → Option String → Except JsError Json) : Prop where
  reply : ∀ (revocations : List KeyRevocation) (times : List Int) (signer : String)
    (createdAt : Option Int), revocations ≠ [] →
    revocations.map (·.compromisedSince) = times.map JsDate.toISOString →
    (∀ t ∈ times, JsDate.InRange t) → (∀ t ∈ createdAt, JsDate.InRange t) →
    (∀ r ∈ revocations, r.revokedKeyFingerprint = signer) →
    ∃ members least,
      classify (.arr (revocations.map toRevocationJson)) signer
        (createdAt.map JsDate.toISOString) = .ok (.obj members) ∧
      least ∈ times ∧ (∀ t ∈ times, least ≤ t) ∧
      Json.get members "boundary" = some (.str (JsDate.toISOString least)) ∧
      (Json.strOf (Json.get members "authorization") =
          some "historically_authorized_pre_compromise" ↔ ∃ t ∈ createdAt, t < least)

section Spec

variable {sdk : ReceiptSdk} {classify : Json → String → Option String → Except JsError Json}
  {otherDates : String → Option Int} {revocations : List KeyRevocation} {signer : String}
  {createdAt : Option String}

theorem inRange_of_parse {text : String} {t : Int} (h : JsDate.parse otherDates text = some t) :
    JsDate.InRange t := by
  exact of_decide_eq_true (Option.filter_eq_some_iff.mp h).2

theorem mapM_ok_of_forall {α β ε : Type} {f : α → Except ε β} {g : α → β} {l : List α}
    (h : ∀ a ∈ l, f a = .ok (g a)) : l.mapM f = .ok (l.map g) := by
  induction l with
  | nil => rfl
  | cons a l ih =>
    obtain ⟨ha, hl⟩ := forall_mem_cons.mp h
    rw [mapM_cons, ha, ih hl]
    rfl

theorem exists_of_mapM_ok {α β ε : Type} {f : α → Except ε β} {l : List α} {l' : List β}
    (h : l.mapM f = .ok l') : ∀ a ∈ l, ∃ b, f a = .ok b := by
  induction l generalizing l' with
  | nil => nofun
  | cons a l ih =>
    rw [mapM_cons] at h
    cases ha : f a with
    | error err =>
      rw [ha] at h
      cases h
    | ok b =>
      rw [ha] at h
      cases hl : l.mapM f with
      | error err =>
        rw [hl] at h
        cases h
      | ok bs => exact forall_mem_cons.mpr ⟨⟨b, ha⟩, ih hl⟩

theorem mapM_normalizeDate (hc : ∀ text ∈ createdAt, (JsDate.parse otherDates text).isSome) :
    createdAt.mapM (normalizeDate otherDates) =
      .ok ((createdAt.bind (JsDate.parse otherDates)).map JsDate.toISOString) := by
  cases createdAt with
  | none => rfl
  | some text =>
    obtain ⟨t, ht⟩ := Option.isSome_iff_exists.mp (hc text rfl)
    show (normalizeDate otherDates text).map some = .ok (((parse otherDates text).map _))
    rw [normalizeDate, ht]
    rfl

theorem revokedStatus_eq {authorization : Option String} {least : Int}
    (hc : ∀ text ∈ createdAt, (JsDate.parse otherDates text).isSome)
    (ha : authorization = some "historically_authorized_pre_compromise" ↔
      ∃ t ∈ createdAt.bind (JsDate.parse otherDates), t < least) :
    revokedStatus authorization createdAt =
      statusAt (createdAt.bind (JsDate.parse otherDates)) least := by
  unfold revokedStatus
  cases createdAt with
  | none =>
    rw [if_neg (fun h => by simpa using ha.mp h), if_pos rfl]
    rfl
  | some text =>
    obtain ⟨t, ht⟩ := Option.isSome_iff_exists.mp (hc text rfl)
    simp only [Option.bind_some, ht, Option.mem_def, Option.some.injEq, exists_eq_left'] at ha ⊢
    unfold statusAt
    dsimp only
    by_cases hl : t < least
    · rw [if_pos (ha.mpr hl), if_pos hl]
    · rw [if_neg (fun h => hl (ha.mp h)), if_neg hl, if_neg (Option.some_ne_none _)]

theorem IsLeastSince.inRange {least : Int} (h : IsLeastSince otherDates revocations least) :
    JsDate.InRange least := by
  obtain ⟨r, -, hr⟩ := h.attained
  exact inRange_of_parse hr

theorem boundaryTrustClass_iff {normalized : List KeyRevocation} {boundary : String}
    (hatt : ∃ r ∈ normalized, r.compromisedSince = boundary) :
    boundaryTrustClass normalized boundary = .producer_signed ↔
      ∃ r ∈ normalized, r.compromisedSince = boundary ∧ r.trustClass = .producer_signed := by
  have hmem : ∀ {r}, r ∈ normalized.filter (·.compromisedSince = boundary) ↔
      r ∈ normalized ∧ r.compromisedSince = boundary := by
    simp [mem_filter]
  have hpos := length_pos_of_mem (hmem.mpr hatt.choose_spec)
  simp only [boundaryTrustClass, if_pos hpos]
  split
  · next winner hfnd =>
    have hwin := find?_some hfnd
    obtain ⟨hin, hat⟩ := hmem.mp (mem_of_find?_eq_some hfnd)
    exact iff_of_true (by simpa using hwin) ⟨winner, hin, hat, by simpa using hwin⟩
  · next first hnone hhead =>
    rw [find?_eq_none] at hnone
    refine iff_of_false (by simpa using hnone first (mem_of_mem_head? hhead)) ?_
    rintro ⟨r, hin, hat, hcls⟩
    exact hnone r (hmem.mpr ⟨hin, hat⟩) (decide_eq_true hcls)
  · next hhead =>
    rw [head?_eq_none_iff.mp hhead] at hpos
    cases hpos

theorem classifyKeyRevocation_of_classifies (hsd : sdk.classifyUnderRevocation = some classify)
    (hc : Classifies classify) (hn : revocations ≠ [])
    (hd : ∀ r ∈ revocations, (r.since otherDates).isSome)
    (hcr : ∀ text ∈ createdAt, (JsDate.parse otherDates text).isSome)
    (hsg : ∀ r ∈ revocations, r.revokedKeyFingerprint = signer) :
    ∃ revoked least,
      classifyKeyRevocation sdk otherDates revocations signer createdAt = .ok (some revoked) ∧
      Classified otherDates revocations createdAt revoked least := by
  -- the revocations as they are handed over, and their times
  let time (r : KeyRevocation) : Int := (r.since otherDates).getD 0
  let normalize (r : KeyRevocation) : KeyRevocation :=
    { r with compromisedSince := toISOString (time r) }
  have hti : ∀ r ∈ revocations, r.since otherDates = some (time r) := by
    intro r hr
    obtain ⟨t, ht⟩ := Option.isSome_iff_exists.mp (hd r hr)
    simp [time, ht]
  have hno : revocations.mapM (normalizeRevocation otherDates) =
      .ok (revocations.map normalize) := by
    apply mapM_ok_of_forall
    intro r hr
    have ht : parse otherDates r.compromisedSince = some (time r) := hti r hr
    unfold normalizeRevocation normalizeDate
    rw [ht]
    rfl
  obtain ⟨members, least, hre, hm, hle, hb, hau⟩ :=
    hc.reply (revocations.map normalize) (revocations.map time) signer
      (createdAt.bind (parse otherDates)) (by simpa using hn)
      (by rw [map_map, map_map]; rfl)
      (by
        intro t ht
        obtain ⟨r, hr, rfl⟩ := mem_map.mp ht
        exact inRange_of_parse (hti r hr))
      (by
        intro t ht
        obtain ⟨text, -, hte⟩ := Option.bind_eq_some_iff.mp ht
        exact inRange_of_parse hte)
      (by
        intro r hr
        obtain ⟨r', hr', rfl⟩ := mem_map.mp hr
        exact hsg r' hr')
  have hl : IsLeastSince otherDates revocations least := by
    constructor
    · obtain ⟨r, hr, rfl⟩ := mem_map.mp hm
      exact ⟨r, hr, hti r hr⟩
    · intro r hr t ht
      cases (hti r hr).symm.trans ht
      exact hle _ (mem_map_of_mem hr)
  refine ⟨⟨revokedStatus (Json.strOf (Json.get members "authorization")) createdAt,
    toISOString least, boundaryTrustClass (revocations.map normalize)
      (toISOString least), revocations.map fun r => (r.ctxId, r.publisher)⟩, least, ?_,
    hd, hcr, hl, rfl, revokedStatus_eq hcr hau, ?_⟩
  · unfold classifyKeyRevocation
    rw [if_neg (by simpa using hn), hsd]
    simp only [hno, mapM_normalizeDate hcr, hre, bind, Except.bind, Json.member,
      hb]
  · -- equal texts are those of equal instants
    have hs : ∀ r ∈ revocations, toISOString (time r) = toISOString least ↔
        r.since otherDates = some least := by
      intro r hr
      rw [hti r hr, Option.some.injEq]
      refine ⟨fun heq => ?_, congrArg _⟩
      have hp := parse_toISOString otherDates (inRange_of_parse (hti r hr))
      rw [heq, parse_toISOString _ hl.inRange] at hp
      exact (Option.some.inj hp).symm
    obtain ⟨r, hr, ha⟩ := hl.attained
    unfold TrustClassAt
    rw [boundaryTrustClass_iff ⟨_, mem_map_of_mem hr, (hs r hr).mpr ha⟩]
    constructor
    · rintro ⟨_, hi, ha, hc⟩
      obtain ⟨r, hr, rfl⟩ := mem_map.mp hi
      exact ⟨r, hr, (hs r hr).mp ha, hc⟩
    · rintro ⟨r, hr, ha, hc⟩
      exact ⟨_, mem_map_of_mem hr, (hs r hr).mpr ha, hc⟩

theorem parse_isSome_of_normalizeDate {text normalized : String}
    (h : normalizeDate otherDates text = .ok normalized) : (JsDate.parse otherDates text).isSome := by
  unfold normalizeDate at h
  split at h
  · next t ht => rw [ht]; rfl
  · cases h

theorem classified_of_eq_some (hcls : ∀ classify ∈ sdk.classifyUnderRevocation, Classifies classify)
    (hsg : ∀ r ∈ revocations, r.revokedKeyFingerprint = signer) {revoked : Revoked String}
    (h : classifyKeyRevocation sdk otherDates revocations signer createdAt = .ok (some revoked)) :
    ∃ least, Classified otherDates revocations createdAt revoked least := by
  have hclf := h
  unfold classifyKeyRevocation at h
  split at h
  · cases h
  next hne =>
  split at h
  · cases h
  next classify hs =>
  cases hn : revocations.mapM (normalizeRevocation otherDates) with
  | error err =>
    rw [hn] at h
    cases h
  | ok normalized =>
  rw [hn] at h
  cases hc : createdAt.mapM (normalizeDate otherDates) with
  | error err =>
    simp only [hc, bind, Except.bind] at h
    cases h
  | ok created =>
  have hda : ∀ r ∈ revocations, (r.since otherDates).isSome := by
    intro r hr
    obtain ⟨r', hr'⟩ := exists_of_mapM_ok hn r hr
    unfold normalizeRevocation at hr'
    cases hd : normalizeDate otherDates r.compromisedSince with
    | error err =>
      rw [hd] at hr'
      cases hr'
    | ok text => exact parse_isSome_of_normalizeDate hd
  have hcr : ∀ text ∈ createdAt, (parse otherDates text).isSome := by
    rintro text ⟨⟩
    cases hd : normalizeDate otherDates text with
    | error err =>
      simp only [Option.mapM_some, hd] at hc
      cases hc
    | ok text' => exact parse_isSome_of_normalizeDate hd
  obtain ⟨revoked', least, heq, hcl⟩ := classifyKeyRevocation_of_classifies hs
    (hcls classify hs) (by simpa using hne) hda hcr hsg
  cases hclf.symm.trans heq
  exact ⟨least, hcl⟩

/-- The facts that decide how an event of a registry is classified under a key. -/
def applicableFacts (cfg : ReceiptConfig) (facts : FactTable) (ev : PublishEvent)
    (signerFingerprint : String) : List KeyRevocation :=
  filterApplicableRevocations cfg (facts.findByFingerprint signerFingerprint ev.tenantId)
    ev.registryAuthority

theorem fingerprint_of_mem_filter {cfg : ReceiptConfig} {all : List KeyRevocation}
    {registryAuthority : String} (ha : ∀ r ∈ all, r.revokedKeyFingerprint = signer) :
    ∀ r ∈ filterApplicableRevocations cfg all registryAuthority, r.revokedKeyFingerprint = signer :=
  fun r hr => ha r (mem_filter.mp hr).1

theorem FactTable.fingerprint_of_mem {facts : FactTable} {tenantId : String} {r : KeyRevocation}
    (hr : r ∈ facts.findByFingerprint signer tenantId) : r.revokedKeyFingerprint = signer :=
  (of_decide_eq_true (mem_filter.mp hr).2).2

theorem classified_of_withRevocationClassification {cfg : ReceiptConfig}
    (hcl : ∀ classify ∈ sdk.classifyUnderRevocation, Classifies classify)
    {facts : Except JsError FactTable} {ev : PublishEvent} {base : BaseVerdict}
    {producerFp : Option String} {verdict : ReceiptVerdict} {revoked : Revoked String}
    (h : withRevocationClassification sdk cfg otherDates facts ev base producerFp = .ok verdict)
    (hr : verdict.keyRevocation = some revoked) :
    ∃ table signer least, facts = .ok table ∧ cfg.keyRevocationCheckEnabled = true ∧
      truthy (producerFp.or ev.keyFingerprint) = some signer ∧
      signer ∉ cfg.keyRevocationIgnoreFingerprints ∧ sdk.classifyUnderRevocation.isSome ∧
      Classified otherDates (applicableFacts cfg table ev signer)
        (verifiedCreatedAt base.status base.receiptCreatedAt) revoked least := by
  unfold withRevocationClassification at h
  split at h
  · cases h
    cases hr
  next hen =>
  split at h
  · cases h
    cases hr
  next signer hs =>
  cases hev : classifyRevocationForEvent sdk cfg otherDates facts ev signer
      (verifiedCreatedAt base.status base.receiptCreatedAt) with
  | error err =>
    rw [hev] at h
    cases h
  | ok classification =>
  rw [hev] at h
  cases h
  cases hr
  unfold classifyRevocationForEvent at hev
  split at hev
  · cases hev
  next table =>
  dsimp only at hev
  split at hev
  · cases hev
  split at hev
  · cases hev
  next hi =>
  obtain ⟨least, hc⟩ := classified_of_eq_some hcl
    (fingerprint_of_mem_filter fun r => FactTable.fingerprint_of_mem) hev
  refine ⟨table, signer, least, rfl, by simpa using hen, hs, by simpa using hi, ?_,
    hc⟩
  -- without the binding there is no classification
  rw [Option.isSome_iff_ne_none]
  intro hn
  unfold classifyKeyRevocation at hev
  rw [hn] at hev
  split at hev
  · cases hev
  · cases hev

end Spec

end AcdpControlPlane
