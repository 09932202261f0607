import AcdpControlPlane.Receipt.Severity

/-!
# The order of discovery does not matter

Facts may be recorded before or after the audit of an event. What was recorded before is part of the
verdict; what comes later has to be brought in by the re-audit. For an event that claims the key it
was signed with, both lead to the same classification: once a pass has gone over the row, it is
classified as an audit with all facts would have classified it.
-/

namespace AcdpControlPlane

open List JsDate

/-! ## The least time as a text -/

section Least

variable {otherDates : String → Option Int} {facts facts' : List KeyRevocation} {least : Int}

def CommonEraFacts (otherDates : String → Option Int) (facts : List KeyRevocation) : Prop :=
  ∀ r ∈ facts, ∃ t, CommonEra t ∧ r.since otherDates = some t

theorem CommonEraFacts.subset (h : CommonEraFacts otherDates facts') (hs : facts ⊆ facts') :
    CommonEraFacts otherDates facts := fun r hr => h r (hs hr)

theorem CommonEraFacts.dated (h : CommonEraFacts otherDates facts) :
    ∀ r ∈ facts, (r.since otherDates).isSome := by
  intro r hr
  obtain ⟨t, -, ht⟩ := h r hr
  rw [ht]
  rfl

theorem CommonEraFacts.commonEra (h : CommonEraFacts otherDates facts)
    (hl : IsLeastSince otherDates facts least) : CommonEra least := by
  obtain ⟨r, hr, hs⟩ := hl.attained
  obtain ⟨t, ht, hs'⟩ := h r hr
  cases hs.symm.trans hs'
  exact ht

theorem foldl_min_toISOString {t : Int} {times : List Int} (ht : CommonEra t)
    (htm : ∀ s ∈ times, CommonEra s) :
    (times.map JsDate.toISOString).foldl (fun min iso => if iso < min then iso else min)
      (JsDate.toISOString t) = JsDate.toISOString (times.foldl min t) := by
  induction times generalizing t with
  | nil => rfl
  | cons s times ih =>
    obtain ⟨hs, hr⟩ := forall_mem_cons.mp htm
    have hst : (if toISOString s < toISOString t then toISOString s
        else toISOString t) = toISOString (min t s) := by
      by_cases hl : s < t
      · rw [if_pos ((toISOString_lt_iff hs.fourDigitYear ht.fourDigitYear).mpr hl),
          Int.min_eq_right (Int.le_of_lt hl)]
      · rw [if_neg (fun h => hl ((toISOString_lt_iff hs.fourDigitYear
          ht.fourDigitYear).mp h)), Int.min_eq_left (Int.not_lt.mp hl)]
    have hm : CommonEra (min t s) := by
      by_cases hle : t ≤ s
      · rw [Int.min_eq_left hle]
        exact ht
      · rw [Int.min_eq_right (by omega)]
        exact hs
    rw [map_cons, foldl_cons, hst, foldl_cons]
    exact ih hm hr

theorem globalMinBoundaryIso_eq (hn : facts ≠ []) (h : CommonEraFacts otherDates facts) :
    ∃ least, IsLeastSince otherDates facts least ∧
      globalMinBoundaryIso otherDates facts = .ok (some (JsDate.toISOString least)) := by
  let time (r : KeyRevocation) : Int := (r.since otherDates).getD 0
  have hti : ∀ r ∈ facts, CommonEra (time r) ∧ r.since otherDates = some (time r) := by
    intro r hr
    obtain ⟨t, ht, hsi⟩ := h r hr
    simp only [time, hsi, Option.getD_some, and_true]
    exact ht
  have hi : facts.mapM (normalizeDate otherDates ∘ KeyRevocation.compromisedSince) =
      .ok (facts.map (toISOString ∘ time)) := by
    apply mapM_ok_of_forall
    intro r hr
    have hsi : parse otherDates r.compromisedSince = some (time r) := (hti r hr).2
    simp only [Function.comp_apply, normalizeDate, hsi]
  cases facts with
  | nil => exact absurd rfl hn
  | cons r facts =>
    refine ⟨(facts.map time).foldl min (time r), ?_, ?_⟩
    · -- the fold is the minimum of the instants
      obtain ⟨hm, hl⟩ := min?_eq_some_iff.mp
        (min?_cons' : (time r :: facts.map time).min? = _)
      rw [← map_cons] at hm hl
      constructor
      · obtain ⟨r', hr', heq⟩ := mem_map.mp hm
        exact ⟨r', hr', heq ▸ (hti r' hr').2⟩
      · intro r' hr' t ht
        cases (hti r' hr').2.symm.trans ht
        exact hl _ (mem_map_of_mem hr')
    · unfold globalMinBoundaryIso
      rw [hi]
      obtain ⟨hr, hf⟩ := forall_mem_cons.mp hti
      have htm : ∀ s ∈ facts.map time, CommonEra s := by
        intro s hs
        obtain ⟨r', hr', rfl⟩ := mem_map.mp hs
        exact (hf r' hr').1
      rw [← foldl_min_toISOString hr.1 htm, map_map]
      rfl

end Least

/-! ## The classification by an audit -/

section Live

variable {sdk : ReceiptSdk} {cfg : ReceiptConfig} {otherDates : String → Option Int}
  {facts facts' : FactTable} {ev : PublishEvent} {base : BaseVerdict} {producerFp : Option String}
  {signer : String}

theorem reauditsKey_iff :
    reauditsKey sdk cfg signer = true ↔ cfg.keyRevocationCheckEnabled = true ∧
      sdk.classifyUnderRevocation.isSome = true ∧ signer ∉ cfg.keyRevocationIgnoreFingerprints := by
  simp [reauditsKey, and_assoc]

theorem applicableFacts_mono
    (h : facts.findByFingerprint signer ev.tenantId ⊆ facts'.findByFingerprint signer ev.tenantId) :
    applicableFacts cfg facts ev signer ⊆ applicableFacts cfg facts' ev signer := by
  intro r hr
  obtain ⟨hm, ha⟩ := mem_filter.mp hr
  exact mem_filter.mpr ⟨h hm, ha⟩

theorem withRevocationClassification_of_applies
    (hclassifies : ∀ classify ∈ sdk.classifyUnderRevocation, Classifies classify)
    (hsg : truthy (producerFp.or ev.keyFingerprint) = some signer)
    (hk : reauditsKey sdk cfg signer = true) (hn : applicableFacts cfg facts ev signer ≠ [])
    (hd : ∀ r ∈ applicableFacts cfg facts ev signer, (r.since otherDates).isSome)
    (hcreated : ∀ text ∈ verifiedCreatedAt base.status base.receiptCreatedAt,
      (JsDate.parse otherDates text).isSome) :
    ∃ revoked least,
      withRevocationClassification sdk cfg otherDates (.ok facts) ev base producerFp =
        .ok ⟨base, some revoked⟩ ∧
      Classified otherDates (applicableFacts cfg facts ev signer)
        (verifiedCreatedAt base.status base.receiptCreatedAt) revoked least := by
  obtain ⟨hen, hs, hi⟩ := reauditsKey_iff.mp hk
  obtain ⟨classify, hs⟩ := Option.isSome_iff_exists.mp hs
  obtain ⟨revoked, least, hc, hcl⟩ := classifyKeyRevocation_of_classifies hs
    (hclassifies classify hs) hn hd hcreated
    (fingerprint_of_mem_filter fun r => FactTable.fingerprint_of_mem)
  refine ⟨revoked, least, ?_, hcl⟩
  have ha : (facts.findByFingerprint signer ev.tenantId).length ≠ 0 := by
    intro ha
    rw [applicableFacts, length_eq_zero_iff.mp ha] at hn
    exact hn rfl
  unfold withRevocationClassification classifyRevocationForEvent
  rw [if_neg (by simp [hen]), hsg]
  dsimp only
  rw [if_neg ha, if_neg (by simpa using hi)]
  unfold applicableFacts at hc
  rw [hc]
  rfl

theorem withRevocationClassification_of_none
    (hsg : truthy (producerFp.or ev.keyFingerprint) = some signer)
    (hno : reauditsKey sdk cfg signer = true → applicableFacts cfg facts ev signer = []) :
    withRevocationClassification sdk cfg otherDates (.ok facts) ev base producerFp =
      .ok ⟨base, none⟩ := by
  unfold withRevocationClassification classifyRevocationForEvent
  split
  · rfl
  next hen =>
  rw [hsg]
  dsimp only
  split
  · rfl
  split
  · rfl
  next hi =>
  unfold classifyKeyRevocation
  split
  · rfl
  next hne =>
  split
  · rfl
  next classify hs =>
  -- every check was passed, and a fact applies
  have hk : reauditsKey sdk cfg signer = true :=
    reauditsKey_iff.mpr ⟨by simpa using hen, by rw [hs]; rfl, by simpa using hi⟩
  have hn := hno hk
  unfold applicableFacts at hn
  rw [hn] at hne
  exact absurd rfl hne

end Live

/-! ## Events that claim their signer -/

/-- The audit of an event comes to a verdict, the key that the event claims is the one that the audit
classifies, and the creation time of a verified receipt is one of whole milliseconds. -/
structure ClaimsSigner (sdk : ReceiptSdk) (env : ReceiptEnv) (ev : ReceiptEvent) (base : BaseVerdict)
    (fingerprint : String) : Prop where
  resolved : ∃ producerFp, auditReceipt sdk env ev = .ok (base, producerFp) ∧
    ∀ signer ∈ producerFp, signer = fingerprint
  claimed : ev.keyFingerprint = some fingerprint
  nonempty : fingerprint ≠ ""
  millis : ∀ text ∈ verifiedCreatedAt base.status base.receiptCreatedAt,
    ∃ t, CommonEra t ∧ text = JsDate.toISOString t

section Claimed

variable {sdk : ReceiptSdk} {cfg : ReceiptConfig} {pg : Timestamptz} {env : ReceiptEnv}
  {ev : ReceiptEvent} {base : BaseVerdict} {fingerprint : String} {facts : FactTable}
  {row : ReceiptAudit} (h : ClaimsSigner sdk env ev base fingerprint)
include h

theorem ClaimsSigner.signer {producerFp : Option String}
    (hr : ∀ signer ∈ producerFp, signer = fingerprint) :
    truthy (producerFp.or ev.keyFingerprint) = some fingerprint := by
  rw [h.claimed]
  apply truthy_eq_some_iff.mpr
  refine ⟨?_, h.nonempty⟩
  cases producerFp with
  | none => rfl
  | some signer => rw [hr signer rfl, Option.some_or]

theorem ClaimsSigner.dated :
    ∀ text ∈ verifiedCreatedAt base.status base.receiptCreatedAt,
      (JsDate.parse env.otherDates text).isSome := by
  intro text hte
  obtain ⟨t, ht, rfl⟩ := h.millis text hte
  rw [parse_toISOString _ ht.inRange]
  rfl

theorem ClaimsSigner.auditReceiptEvent_cases
    (hclassifies : ∀ classify ∈ sdk.classifyUnderRevocation, Classifies classify)
    (hera : CommonEraFacts env.otherDates (facts.findByFingerprint fingerprint ev.tenantId)) :
    (∃ revoked least, reauditsKey sdk cfg fingerprint = true ∧
      auditReceiptEvent sdk { env with facts := .ok facts } cfg ev = ⟨base, some revoked⟩ ∧
      Classified env.otherDates (applicableFacts cfg facts ev.toPublishEvent fingerprint)
        (verifiedCreatedAt base.status base.receiptCreatedAt) revoked least) ∨
    (reauditsKey sdk cfg fingerprint = true →
      applicableFacts cfg facts ev.toPublishEvent fingerprint = []) ∧
      auditReceiptEvent sdk { env with facts := .ok facts } cfg ev = ⟨base, none⟩ := by
  obtain ⟨producerFp, ha, hre⟩ := h.resolved
  have hs := h.signer hre
  -- the audit proper does not look at the facts
  have ha' : auditReceipt sdk { env with facts := .ok facts } ev = .ok (base, producerFp) :=
    ha
  have hv : ∀ verdict, withRevocationClassification sdk cfg env.otherDates (.ok facts)
      ev.toPublishEvent base producerFp = .ok verdict →
      auditReceiptEvent sdk { env with facts := .ok facts } cfg ev = verdict := by
    intro verdict hc
    unfold auditReceiptEvent auditReceiptEventInner
    rw [ha']
    dsimp only
    rw [hc]
  by_cases hap : reauditsKey sdk cfg fingerprint = true ∧
      applicableFacts cfg facts ev.toPublishEvent fingerprint ≠ []
  · obtain ⟨hk, hne⟩ := hap
    obtain ⟨revoked, least, hc, hcl⟩ := withRevocationClassification_of_applies
      hclassifies hs hk hne (fun r hr => hera.dated r (mem_filter.mp hr).1) h.dated
    exact Or.inl ⟨revoked, least, hk, hv _ hc, hcl⟩
  · have hn : reauditsKey sdk cfg fingerprint = true →
        applicableFacts cfg facts ev.toPublishEvent fingerprint = [] :=
      fun hk => not_not.mp fun hne => hap ⟨hk, hne⟩
    exact Or.inr ⟨hn, hv _ (withRevocationClassification_of_none hs hn)⟩

variable (hpg : pg.KeepsMillis env.otherDates) (hstatus : row.status = base.status)
  (hcreated : base.receiptCreatedAt.mapM pg.read = .ok row.receiptCreatedAt)
include hpg hstatus hcreated

theorem ClaimsSigner.stored :
    verifiedCreatedAt base.status base.receiptCreatedAt = none ∧
        verifiedCreatedAt row.status (row.receiptCreatedAt.map pg.render) = none ∨
      ∃ t, CommonEra t ∧
        verifiedCreatedAt base.status base.receiptCreatedAt = some (JsDate.toISOString t) ∧
        verifiedCreatedAt row.status (row.receiptCreatedAt.map pg.render) =
          some (pg.render (1000 * t)) := by
  have hm := h.millis
  unfold verifiedCreatedAt at hm ⊢
  rw [hstatus]
  by_cases hv : base.status.isVerified = true
  · rw [if_pos hv] at hm
    rw [if_pos hv, if_pos hv]
    cases hs : base.receiptCreatedAt with
    | none =>
      rw [hs] at hcreated
      have hr : none = row.receiptCreatedAt := Except.ok.inj hcreated
      rw [← hr]
      exact Or.inl ⟨rfl, rfl⟩
    | some text =>
      obtain ⟨t, ht, rfl⟩ := hm text hs
      rw [hs, Option.mapM_some, hpg.read_toISOString ht] at hcreated
      have hr : some (1000 * t) = row.receiptCreatedAt := Except.ok.inj hcreated
      rw [← hr]
      exact Or.inr ⟨t, ht, rfl, rfl⟩
  · rw [if_neg hv, if_neg hv]
    exact Or.inl ⟨rfl, rfl⟩

theorem ClaimsSigner.createdTime_eq :
    row.createdTime pg env.otherDates =
      (verifiedCreatedAt base.status base.receiptCreatedAt).bind (JsDate.parse env.otherDates) := by
  unfold ReceiptAudit.createdTime
  obtain ⟨hs, hr⟩ | ⟨t, ht, hs, hr⟩ := h.stored hpg hstatus hcreated
  · rw [hs, hr]
  · rw [hs, hr, Option.bind_some, Option.bind_some, hpg.rendered t ht,
      parse_toISOString _ ht.inRange]

theorem ClaimsSigner.dated_row :
    ∀ text ∈ verifiedCreatedAt row.status (row.receiptCreatedAt.map pg.render),
      (JsDate.parse env.otherDates text).isSome := by
  intro text hte
  obtain ⟨-, hr⟩ | ⟨t, ht, -, hr⟩ := h.stored hpg hstatus hcreated
  · cases hr.symm.trans hte
  · cases hr.symm.trans hte
    rw [hpg.rendered t ht]
    rfl

end Claimed

/-! ## The row of an event -/

/-- What holds of the row of an event, whatever wrote its classification. -/
structure Settled (sdk : ReceiptSdk) (cfg : ReceiptConfig) (pg : Timestamptz) (env : ReceiptEnv)
    (ev : ReceiptEvent) (base : BaseVerdict) (fingerprint : String) (db : ReceiptDb)
    (row : ReceiptAudit) : Prop where
  event : ev ∈ db.events.rows
  eventId : row.eventId = ev.id
  tenantId : row.tenantId = ev.tenantId
  status : row.status = base.status
  created : base.receiptCreatedAt.mapM pg.read = .ok row.receiptCreatedAt
  arrived : ∃ arrived, pg.read ev.createdAt = .ok arrived
  classified : ∀ r ∈ row.keyRevocation, reauditsKey sdk cfg fingerprint = true ∧
    ∃ fact ∈ applicableFacts cfg db.facts ev.toPublishEvent fingerprint,
      ∃ t, fact.since env.otherDates = some t ∧ r.boundary = 1000 * t ∧
        r.status = statusAt ((verifiedCreatedAt base.status base.receiptCreatedAt).bind
          (JsDate.parse env.otherDates)) t

section Settled

variable {sdk : ReceiptSdk} {cfg : ReceiptConfig} {pg : Timestamptz} {env : ReceiptEnv}
  {ev : ReceiptEvent} {base : BaseVerdict} {fingerprint : String} {db db' : ReceiptDb}
  {row : ReceiptAudit}

theorem Settled.mono (h : Settled sdk cfg pg env ev base fingerprint db row)
    (hex : db.Extends db') : Settled sdk cfg pg env ev base fingerprint db' row where
  event := hex.events h.event
  eventId := h.eventId
  tenantId := h.tenantId
  status := h.status
  created := h.created
  arrived := h.arrived
  classified := by
    intro r hr
    obtain ⟨hk, fact, hf, hre⟩ := h.classified r hr
    exact ⟨hk, fact, applicableFacts_mono (hex.findByFingerprint _ _) hf, hre⟩

/-- An audit of the event meets the same outside each time, but for the facts. -/
def AuditsAlike (env : ReceiptEnv) (ev : ReceiptEvent) (action : ReauditAction) : Prop :=
  ∀ cfg env' ev', action = .audit cfg env' ev' → ev'.id = ev.id →
    ev' = ev ∧ ∃ seen, env' = { env with facts := .ok seen }

variable {history : List ReauditAction} {action : ReauditAction} {s s' : ReauditSystem}
  (h : ClaimsSigner sdk env ev base fingerprint)
  (hclassifies : ∀ classify ∈ sdk.classifyUnderRevocation, Classifies classify)
  (hpg : pg.KeepsMillis env.otherDates)
include h hclassifies hpg

theorem settled_of_store {seen : FactTable} {now : Int}
    (hera : CommonEraFacts env.otherDates (seen.findByFingerprint fingerprint ev.tenantId))
    (hs : seen.rows ⊆ db.facts.rows) (hev : ev ∈ db.events.rows)
    (hstr : (toReceiptRow ev (auditReceiptEvent sdk { env with facts := .ok seen } cfg ev)).store
      pg now = .ok row) : Settled sdk cfg pg env ev base fingerprint db row := by
  obtain ⟨hcreated, ha, hrv, hevi, ht, hstatus⟩ :=
    NewReceiptAudit.store_eq_ok hstr
  obtain ⟨revoked, least, hk, hv, hc⟩ | ⟨-, hv⟩ :=
    h.auditReceiptEvent_cases hclassifies hera
  · rw [hv] at hcreated hrv hstatus
    refine ⟨hev, hevi, ht, hstatus, hcreated, ⟨_, ha⟩, ?_⟩
    intro r hr
    rw [hr] at hrv
    obtain ⟨revoked', heq, hst⟩ := exists_of_mapM_eq_some hrv
    cases heq
    obtain ⟨least, hl, hb, hrs⟩ := hc.under hpg hst
    obtain ⟨fact, hf, hsi⟩ := hl.attained
    exact ⟨hk, fact, applicableFacts_mono (FactTable.findByFingerprint_subset hs) hf, least, hsi,
      hb, hrs⟩
  · rw [hv] at hcreated hrv hstatus
    refine ⟨hev, hevi, ht, hstatus, hcreated, ⟨_, ha⟩, ?_⟩
    intro r hr
    rw [hr] at hrv
    obtain ⟨revoked', heq, -⟩ := exists_of_mapM_eq_some hrv
    cases heq

theorem Settled.amend (hs : Settled sdk cfg pg env ev base fingerprint db row)
    {tenantId key : String} {all : List KeyRevocation} {ev' : ReceiptEvent} {amendment : Revoked Int} (hk : reauditsKey sdk cfg key = true)
    (ha : all ⊆ db.facts.findByFingerprint key tenantId) (hev' : ev' ∈ db.events.rows)
    (hcl : Claims tenantId key row ev')
    (ham : amendmentFor sdk cfg pg env.otherDates key all (candidateOf pg row ev') =
      some amendment) :
    Settled sdk cfg pg env ev base fingerprint db { row with keyRevocation := some amendment } where
  event := hs.event
  eventId := hs.eventId
  tenantId := hs.tenantId
  status := hs.status
  created := hs.created
  arrived := hs.arrived
  classified := by
    rintro r ⟨⟩
    obtain ⟨hi, ht, ht', hc⟩ := hcl
    -- the event is the one that was audited, so the key is the one that it claims
    cases KeyedTable.eq_of_key_eq hev' hs.event (hi.trans hs.eventId)
    cases h.claimed.symm.trans hc
    cases ht'
    obtain ⟨least, hl, hb, hstatus⟩ := under_of_amends hclassifies hpg ha ham
    rw [h.createdTime_eq hpg hs.status hs.created] at hstatus
    obtain ⟨fact, hf, hsi⟩ := hl.attained
    obtain ⟨hm, hap⟩ := mem_filter.mp hf
    exact ⟨hk, fact, mem_filter.mpr ⟨ha hm, hap⟩, least, hsi, hb, hstatus⟩

theorem ReauditStep.settled (hst : ReauditStep sdk pg env.otherDates (· = cfg) action s s')
    (hg : ∀ pass ∈ s.passes, pass.Grounded sdk pg (· = cfg) s.db) (hal : AuditsAlike env ev action)
    (hera : CommonEraFacts env.otherDates (s.db.facts.findByFingerprint fingerprint ev.tenantId))
    (ha : ∀ row ∈ s.db.audits.rows, row.eventId = ev.id →
      Settled sdk cfg pg env ev base fingerprint s.db row) :
    ∀ row ∈ s'.db.audits.rows, row.eventId = ev.id →
      Settled sdk cfg pg env ev base fingerprint s'.db row := by
  intro row hr hi
  apply Settled.mono _ hst.extends
  cases hst.rowOrigin hg hr with
  | kept old => exact ha row old hi
  | recorded audit configured stored _ seen _ recorded =>
    have hev := (NewReceiptAudit.store_eq_ok recorded).2.2.2.1
    obtain ⟨rfl, facts, rfl⟩ := hal _ _ _ audit (hev.symm.trans hi)
    cases configured
    have hs := seen facts rfl
    exact settled_of_store h hclassifies hpg (hera.subset (FactTable.findByFingerprint_subset hs)) hs
      stored recorded
  | amended old configured gate facts event claims amends _ =>
    cases configured
    exact (ha _ old hi).amend h hclassifies hpg gate facts event claims amends

theorem ReauditRun.settled (hr : ReauditRun sdk pg env.otherDates (· = cfg) history s)
    (ha : ∀ action ∈ history, AuditsAlike env ev action)
    (hera : CommonEraFacts env.otherDates (s.db.facts.findByFingerprint fingerprint ev.tenantId)) :
    ∀ row ∈ s.db.audits.rows, row.eventId = ev.id →
      Settled sdk cfg pg env ev base fingerprint s.db row := by
  induction hr with
  | initial => exact fun _ h => nomatch h
  | step run step ih =>
    obtain ⟨hl, hb⟩ := forall_mem_cons.mp ha
    have her := hera.subset (step.extends.findByFingerprint fingerprint ev.tenantId)
    exact step.settled h hclassifies hpg run.grounded hl her (ih hb her)

theorem PassSteps.settled (hs : PassSteps sdk pg env.otherDates (· = cfg) s s')
    (hg : ∀ pass ∈ s.passes, pass.Grounded sdk pg (· = cfg) s.db)
    (hera : CommonEraFacts env.otherDates (s'.db.facts.findByFingerprint fingerprint ev.tenantId))
    (ha : ∀ row ∈ s.db.audits.rows, row.eventId = ev.id →
      Settled sdk cfg pg env ev base fingerprint s.db row) :
    (∀ pass ∈ s'.passes, pass.Grounded sdk pg (· = cfg) s'.db) ∧
      ∀ row ∈ s'.db.audits.rows, row.eventId = ev.id →
        Settled sdk cfg pg env ev base fingerprint s'.db row := by
  induction hs with
  | refl => exact ⟨hg, ha⟩
  | tail _ step ih =>
    obtain ⟨action, hp, step⟩ := step
    have her := hera.subset (step.extends.findByFingerprint fingerprint ev.tenantId)
    obtain ⟨hg, ha⟩ := ih her
    refine ⟨step.grounded hg,
      step.settled h hclassifies hpg hg ?_ her ha⟩
    -- a step of a pass is no audit
    rintro _ _ _ rfl
    cases hp

end Settled

/-! ## A pass that comes to the row -/

def DrawsIfEligible (cfg : ReceiptConfig) (pg : Timestamptz) (otherDates : String → Option Int)
    (shuffle : Shuffle) (db : ReceiptDb) (tenantId fingerprint : String) (row : ReceiptAudit)
    (ev : ReceiptEvent) : Prop :=
  ∀ globalMin boundary candidates,
    globalMinBoundaryIso otherDates (db.facts.findByFingerprint fingerprint tenantId) =
      .ok globalMin →
    globalMin.mapM pg.read = .ok boundary → row.Eligible boundary →
    findRevocationAmendmentCandidates pg shuffle db tenantId fingerprint globalMin
      cfg.receiptAuditBatchSize = .ok candidates →
    candidateOf pg row ev ∈ candidates

section Pass

variable {sdk : ReceiptSdk} {cfg : ReceiptConfig} {pg : Timestamptz}
  {otherDates : String → Option Int} {shuffle : Shuffle} {db : ReceiptDb}
  {tenantId fingerprint : String} {row : ReceiptAudit} {ev : ReceiptEvent}

theorem drawsIfEligible_of_length_le
    (hl : ∀ boundary, (eligibleCandidates pg db tenantId fingerprint boundary).length ≤
      cfg.receiptAuditBatchSize) (hro : row ∈ db.audits.rows) (hev : ev ∈ db.events.rows)
    (hcl : Claims tenantId fingerprint row ev) :
    DrawsIfEligible cfg pg otherDates shuffle db tenantId fingerprint row ev := by
  intro globalMin boundary candidates _ hr hel hf
  unfold findRevocationAmendmentCandidates at hf
  rw [hr] at hf
  have hc := Except.ok.inj hf
  have hp := shuffle.perm (eligibleCandidates pg db tenantId fingerprint boundary)
  rw [take_of_length_le (hp.length_eq ▸ hl boundary)] at hc
  rw [← hc, hp.mem_iff]
  exact mem_eligibleCandidates.mpr ⟨row, hro, ev, hev, hcl, hel, rfl⟩

theorem reauditForFingerprint_eq (shuffle : Shuffle) (hpg : pg.KeepsMillis otherDates)
    (hk : reauditsKey sdk cfg fingerprint = true)
    (hn : db.facts.findByFingerprint fingerprint tenantId ≠ [])
    (hera : CommonEraFacts otherDates (db.facts.findByFingerprint fingerprint tenantId)) :
    ∃ (least : Int) (candidates : List RevocationAmendmentCandidate),
      IsLeastSince otherDates (db.facts.findByFingerprint fingerprint tenantId) least ∧
      (∀ row ev, ReceiptAudit.Eligible row (some (1000 * least)) →
        DrawsIfEligible cfg pg otherDates shuffle db tenantId fingerprint row ev →
        candidateOf pg row ev ∈ candidates) ∧
      let rounds := candidates.foldl (amendNext sdk cfg pg otherDates tenantId fingerprint
        (db.facts.findByFingerprint fingerprint tenantId)) (0, db.audits)
      reauditForFingerprint sdk cfg pg otherDates shuffle tenantId fingerprint db =
        .ok (rounds.1, { db with audits := rounds.2 }) := by
  obtain ⟨least, hl, hm⟩ := globalMinBoundaryIso_eq hn hera
  have hr : (some (toISOString least)).mapM pg.read = .ok (some (1000 * least)) := by
    rw [Option.mapM_some, hpg.read_toISOString (hera.commonEra hl)]
    rfl
  have hf : findRevocationAmendmentCandidates pg shuffle db tenantId fingerprint
      (some (toISOString least)) cfg.receiptAuditBatchSize =
      .ok ((shuffle.order (eligibleCandidates pg db tenantId fingerprint
        (some (1000 * least)))).take cfg.receiptAuditBatchSize) := by
    unfold findRevocationAmendmentCandidates
    rw [hr]
    rfl
  refine ⟨least, _, hl, fun row ev hel hd =>
    hd _ _ _ hm hr hel hf, ?_⟩
  unfold reauditForFingerprint
  rw [if_neg (by simp [hk])]
  rw [if_neg (by simpa using hn), hm]
  simp only [bind, Except.bind, hf]
  rfl

variable (hclassifies : ∀ classify ∈ sdk.classifyUnderRevocation, Classifies classify)
  (hpg : pg.KeepsMillis otherDates)
  (hera : CommonEraFacts otherDates (db.facts.findByFingerprint fingerprint ev.tenantId))
  (hcreated : ∀ text ∈ verifiedCreatedAt row.status (row.receiptCreatedAt.map pg.render),
    (JsDate.parse otherDates text).isSome)
include hclassifies hpg hera hcreated

theorem amendmentFor_of_applies (hk : reauditsKey sdk cfg fingerprint = true)
    (hn : applicableFacts cfg db.facts ev.toPublishEvent fingerprint ≠ []) :
    ∃ amendment, amendmentFor sdk cfg pg otherDates fingerprint
        (db.facts.findByFingerprint fingerprint ev.tenantId) (candidateOf pg row ev) =
      some amendment := by
  obtain ⟨-, hs, -⟩ := reauditsKey_iff.mp hk
  obtain ⟨classify, hs⟩ := Option.isSome_iff_exists.mp hs
  have her : CommonEraFacts otherDates
      (applicableFacts cfg db.facts ev.toPublishEvent fingerprint) :=
    hera.subset fun r hr => (mem_filter.mp hr).1
  obtain ⟨revoked, least, hcl, hc⟩ := classifyKeyRevocation_of_classifies hs
    (hclassifies classify hs) hn her.dated hcreated
    (fingerprint_of_mem_filter fun r => FactTable.fingerprint_of_mem)
  have hca : classifyCandidate sdk cfg otherDates fingerprint
      (db.facts.findByFingerprint fingerprint ev.tenantId) (candidateOf pg row ev) =
      .ok (some revoked) := hcl
  unfold amendmentFor
  rw [hca]
  dsimp only
  unfold Revoked.store
  rw [hc.boundary, hpg.read_toISOString (her.commonEra hc.isLeast)]
  exact ⟨_, rfl⟩

def Reached (cfg : ReceiptConfig) (otherDates : String → Option Int) (fingerprint : String)
    (facts : FactTable) (ev : ReceiptEvent) (row : ReceiptAudit) : Prop :=
  ∀ least, IsLeastSince otherDates (applicableFacts cfg facts ev.toPublishEvent fingerprint) least →
    ∃ r ∈ row.keyRevocation, r.boundary ≤ 1000 * least

theorem rounds_reach (hk : reauditsKey sdk cfg fingerprint = true)
    (hro : row ∈ db.audits.rows) (hte : row.tenantId = ev.tenantId)
    {globalMin : Int} {candidates : List RevocationAmendmentCandidate}
    (hg : IsLeastSince otherDates (db.facts.findByFingerprint fingerprint ev.tenantId) globalMin)
    (hd : row.Eligible (some (1000 * globalMin)) → candidateOf pg row ev ∈ candidates) :
    ∃ row' ∈ (candidates.foldl (amendNext sdk cfg pg otherDates ev.tenantId fingerprint
        (db.facts.findByFingerprint fingerprint ev.tenantId)) (0, db.audits)).2.rows,
      Tightens row row' ∧ Reached cfg otherDates fingerprint db.facts ev row' := by
  by_cases ha : applicableFacts cfg db.facts ev.toPublishEvent fingerprint ≠ [] ∧
      row.Eligible (some (1000 * globalMin))
  · obtain ⟨ha, hel⟩ := ha
    obtain ⟨amendment, ham⟩ :=
      amendmentFor_of_applies hclassifies hpg hera hcreated hk ha
    have hsta : row ∈ ((0, db.audits) : ℕ × AuditTable).2.rows := hro
    obtain ⟨row', hro', ht, r, hr, hle⟩ :=
      foldl_amendNext_reaches (hd hel) hsta rfl hte ham
    refine ⟨row', hro', ht, ?_⟩
    intro least hl
    obtain ⟨least', hl', hb, -⟩ :=
      under_of_amends hclassifies hpg (Subset.refl _) ham
    obtain ⟨fact, hf, hs⟩ := hl.attained
    have hsa : least' ≤ least := hl'.le fact hf least hs
    exact ⟨r, hr, by omega⟩
  · obtain ⟨row', hro', ht⟩ := foldl_amendNext_tightens candidates (0, db.audits) row hro
    refine ⟨row', hro', ht, ?_⟩
    intro least hl
    obtain ⟨fact, hf, hs⟩ := hl.attained
    -- something applies, so the row is at or before the least time of all facts
    have hst : ¬ row.Amendable (1000 * globalMin) :=
      fun hel => ha ⟨ne_nil_of_mem hf, hel⟩
    unfold ReceiptAudit.Amendable at hst
    push Not at hst
    obtain ⟨r, hr, hle⟩ := hst
    have hm := hg.le fact (mem_filter.mp hf).1 least hs
    exact ht.boundary_le ⟨r, hr, by omega⟩

theorem reauditForFingerprint_reaches (hr : row ∈ db.audits.rows) (ht : row.tenantId = ev.tenantId)
    (hdr : DrawsIfEligible cfg pg otherDates shuffle db ev.tenantId fingerprint row ev) :
    ∃ amended db' row',
      reauditForFingerprint sdk cfg pg otherDates shuffle ev.tenantId fingerprint db =
        .ok (amended, db') ∧
      db'.facts = db.facts ∧ row' ∈ db'.audits.rows ∧ Tightens row row' ∧
      (reauditsKey sdk cfg fingerprint = true →
        Reached cfg otherDates fingerprint db.facts ev row') := by
  by_cases hi : reauditsKey sdk cfg fingerprint = true →
      db.facts.findByFingerprint fingerprint ev.tenantId = []
  · refine ⟨0, db, row, reauditForFingerprint_eq_self hi, rfl, hr, .refl row, ?_⟩
    -- without facts nothing applies
    intro hk least hl
    obtain ⟨fact, hf, -⟩ := hl.attained
    have hm := (mem_filter.mp hf).1
    rw [hi hk] at hm
    cases hm
  · push Not at hi
    obtain ⟨hk, hn⟩ := hi
    obtain ⟨globalMin, candidates, hg, hd, heq⟩ :=
      reauditForFingerprint_eq shuffle hpg hk hn hera
    obtain ⟨row', hr', htg, hle⟩ := rounds_reach hclassifies hpg hera hcreated hk hr
      ht hg (fun hel => hd row ev hel hdr)
    exact ⟨_, _, row', heq, rfl, hr', htg, fun _ => hle⟩

end Pass

/-! ## Both ways -/

/-- The two columns that say how severe a row is. -/
def ReceiptAudit.classification (row : ReceiptAudit) : Option (RevokedStatus × Int) :=
  row.keyRevocation.map fun r => (r.status, r.boundary)

/-- The row of an audit with given facts: it has the least time that applies, if one does. -/
def AuditedWith (sdk : ReceiptSdk) (cfg : ReceiptConfig) (env : ReceiptEnv) (ev : ReceiptEvent)
    (base : BaseVerdict) (fingerprint : String) (facts : FactTable) (late : ReceiptAudit) : Prop :=
  (∃ least, reauditsKey sdk cfg fingerprint = true ∧
    IsLeastSince env.otherDates (applicableFacts cfg facts ev.toPublishEvent fingerprint) least ∧
    late.classification = some (statusAt ((verifiedCreatedAt base.status
      base.receiptCreatedAt).bind (JsDate.parse env.otherDates)) least, 1000 * least)) ∨
  (reauditsKey sdk cfg fingerprint = true →
    applicableFacts cfg facts ev.toPublishEvent fingerprint = []) ∧ late.classification = none

section Order

variable {sdk : ReceiptSdk} {cfg : ReceiptConfig} {pg : Timestamptz} {env : ReceiptEnv}
  {ev : ReceiptEvent} {base : BaseVerdict} {fingerprint : String} {history : List ReauditAction}
  {s : ReauditSystem} {row : ReceiptAudit}

theorem ClaimsSigner.late_row (h : ClaimsSigner sdk env ev base fingerprint) (cfg : ReceiptConfig)
    (hclassifies : ∀ classify ∈ sdk.classifyUnderRevocation, Classifies classify)
    (hpg : pg.KeepsMillis env.otherDates) {facts : FactTable}
    (hera : CommonEraFacts env.otherDates (facts.findByFingerprint fingerprint ev.tenantId))
    {created : Option Int} {arrived : Int} (hcreated : base.receiptCreatedAt.mapM pg.read = .ok created)
    (ha : pg.read ev.createdAt = .ok arrived) (now : Int) :
    ∃ late, (toReceiptRow ev (auditReceiptEvent sdk { env with facts := .ok facts } cfg ev)).store
        pg now = .ok late ∧ AuditedWith sdk cfg env ev base fingerprint facts late := by
  obtain ⟨revoked, least, hk, hv, hc⟩ | ⟨hn, hv⟩ :=
    h.auditReceiptEvent_cases hclassifies hera
  · have hre : pg.read revoked.boundary = .ok (1000 * least) := by
      rw [hc.boundary]
      apply hpg.read_toISOString
      exact (hera.subset fun r hr => (mem_filter.mp hr).1).commonEra hc.isLeast
    rw [hv]
    unfold NewReceiptAudit.store toReceiptRow
    simp only [hcreated, ha, Option.mapM_some, Revoked.store, hre, bind, Except.bind,
      Except.map, pure, Except.pure]
    refine ⟨_, rfl, Or.inl ⟨least, hk, hc.isLeast, ?_⟩⟩
    rw [← hc.status]
    rfl
  · rw [hv]
    unfold NewReceiptAudit.store toReceiptRow
    simp only [hcreated, ha, Option.mapM_none, bind, Except.bind, pure, Except.pure]
    exact ⟨_, rfl, Or.inr ⟨hn, rfl⟩⟩

theorem Settled.classification_eq {db : ReceiptDb} {late : ReceiptAudit}
    (hs : Settled sdk cfg pg env ev base fingerprint db row)
    (hrc : reauditsKey sdk cfg fingerprint = true →
      Reached cfg env.otherDates fingerprint db.facts ev row)
    (hla : AuditedWith sdk cfg env ev base fingerprint db.facts late) :
    row.classification = late.classification := by
  obtain ⟨least, hk, hl, hc⟩ | ⟨hn, hc⟩ := hla
  · obtain ⟨r, hr, hle⟩ := hrc hk least hl
    obtain ⟨-, fact, hf, t, hsi, hb, hstatus⟩ := hs.classified r hr
    -- the boundary is the time of a fact that applies, and not after the least of these
    have hg := hl.le fact hf t hsi
    have heq : t = least := by omega
    rw [hc, ReceiptAudit.classification, hr, Option.map_some, hstatus, hb, heq]
  · rw [hc, ReceiptAudit.classification, Option.map_eq_none_iff]
    -- a classification would have a fact that applies
    cases hrv : row.keyRevocation with
    | none => rfl
    | some r =>
      obtain ⟨hk, fact, hf, -⟩ := hs.classified r hrv
      rw [hn hk] at hf
      cases hf

end Order

/-! ## A key that is revoked twice -/

theorem sample_claimsSigner :
    ClaimsSigner sampleRevokingSdk (sampleReceiptEnv samplePublished "old key")
      (sampleReceiptEvent "did:web:p.example" "old key")
      ⟨.verified, [], some "2026-06-12T00:00:00.000Z", some 1000⟩ "sha256:old key" where
  resolved := ⟨some "sha256:old key", by decide +kernel, by rintro signer ⟨⟩; rfl⟩
  claimed := by decide
  nonempty := by decide
  millis := by
    rintro text ⟨⟩
    exact ⟨1781222400000, by unfold CommonEra; decide, by decide⟩

theorem sample_alike : ∀ action ∈ sampleHistory,
    AuditsAlike (sampleReceiptEnv samplePublished "old key")
      (sampleReceiptEvent "did:web:p.example" "old key") action := by
  intro action ha cfg env ev heq _
  subst heq
  simp only [sampleHistory, mem_cons, reduceCtorEq, ReauditAction.audit.injEq,
    not_mem_nil, or_false, false_or] at ha
  obtain ⟨-, rfl, rfl⟩ := ha
  exact ⟨rfl, _, rfl⟩

theorem sample_commonEra : CommonEraFacts (fun _ => none)
    (sampleRevisedDb.facts.findByFingerprint "sha256:old key" "default") := by
  have hf : sampleRevisedDb.facts.findByFingerprint "sha256:old key" "default" =
      [sampleLateFact, sampleEarlyFact] := by decide
  intro r hr
  obtain rfl | rfl := mem_pair.mp hr
  · exact ⟨1781913600000, by unfold CommonEra; decide, by decide⟩
  · exact ⟨1780272000000, by unfold CommonEra; decide, by decide⟩

end AcdpControlPlane
