import AcdpControlPlane.Receipt.Audit

/-!
# What receipt verdicts mean

A verified receipt passed every check. That direction needs no assumption on the registry, since each
check that fails, or that could not be made, leaves a finding, and a verified verdict has none.
-/

namespace AcdpControlPlane

/-! ## Findings -/

namespace Findings

variable {a b : Findings} {condition : Prop} [Decidable condition] {text : String}

@[simp] theorem flags_append : (a.append b).flags = a.flags ++ b.flags := rfl

@[simp] theorem flags_empty : empty.flags = [] := rfl

@[simp] theorem flags_note : (note text).flags = [] := rfl

@[simp] theorem flags_flag : (flag text).flags = [text] := rfl

@[simp] theorem flags_flagIf : (flagIf condition text).flags = [] ↔ ¬ condition := by
  unfold flagIf
  split
  · next h => simp [h]
  · next h => simp [h]

end Findings

/-! ## Structural checks -/

section Structural

variable {otherDates : String → Option Int} {ev : ReceiptEvent} {receipt : Json}

structure Matches (otherDates : String → Option Int) (ev : ReceiptEvent) (receipt : Json) : Prop where
  ctxId : ∀ ctxId, truthy ev.ctxId = some ctxId → textOf receipt "ctx_id" = some ctxId
  lineageId : ¬ Differ ev.lineageId (textOf receipt "lineage_id")
  keyFingerprint : ¬ Differ ev.keyFingerprint (textOf receipt "key_fingerprint")
  originRegistry : textOf receipt "origin_registry" = some ev.registryAuthority
  registryDid : ∀ did, authorityToDidWeb ev.registryAuthority = some did →
    textOf receipt "registry_did" = some did
  createdAt : ∀ skew, skewMs otherDates ev receipt = some skew → -CLOCK_SKEW_TOLERANCE_MS ≤ skew

theorem registryDidFindings_flags (authority : String) :
    (registryDidFindings authority receipt).flags = [] ↔
      ∀ did, authorityToDidWeb authority = some did → textOf receipt "registry_did" = some did := by
  unfold registryDidFindings
  split
  · next h => simp [h]
  · next did h => simp [h]

theorem structuralFindings_flags :
    (structuralFindings otherDates ev receipt).flags = [] ↔ Matches otherDates ev receipt := by
  have hc : ¬ ((truthy ev.ctxId).isSome ∧ textOf receipt "ctx_id" ≠ ev.ctxId) ↔
      ∀ ctxId, truthy ev.ctxId = some ctxId → textOf receipt "ctx_id" = some ctxId := by
    cases h : truthy ev.ctxId with
    | none => simp
    | some ctxId => simp [(truthy_eq_some_iff.mp h).1]
  have hs : ¬ (∃ skew ∈ skewMs otherDates ev receipt, skew < -CLOCK_SKEW_TOLERANCE_MS) ↔
      ∀ skew, skewMs otherDates ev receipt = some skew → -CLOCK_SKEW_TOLERANCE_MS ≤ skew := by
    simp only [Option.mem_def, not_exists, not_and, Int.not_lt]
  unfold structuralFindings
  simp only [List.foldr_cons, List.foldr_nil, Findings.flags_append, List.append_eq_nil_iff,
    Findings.flags_flagIf, hc, hs, registryDidFindings_flags, Findings.flags_empty, and_true,
    ne_eq, not_not]
  constructor
  · rintro ⟨h1, h2, h3, h4, h5, h6⟩
    exact ⟨h1, h2, h3, h4, h5, h6⟩
  · rintro ⟨h1, h2, h3, h4, h5, h6⟩
    exact ⟨h1, h2, h3, h4, h5, h6⟩

/-! ## Verified verdicts -/

variable {sdk : ReceiptSdk} {env : ReceiptEnv} {cfg : ReceiptConfig} {body : Json}
  {ctxId echoedHash producerFp : String} {registryKey : ResolvedReceiptKey}

/-- A receipt that went through every check: against the event, the body that was fetched against its
hash, the key id against the registry, and the receipt against all of them. -/
structure FullyChecked (sdk : ReceiptSdk) (env : ReceiptEnv) (ev : ReceiptEvent)
    (receipt body : Json) (ctxId echoedHash producerFp : String)
    (registryKey : ResolvedReceiptKey) : Prop where
  stored : ev.receipt = some receipt
  named : ev.ctxId = some ctxId
  structural : Matches env.otherDates ev receipt
  fetched : ∃ baseUrl, env.registryBaseUrl = .ok (some baseUrl) ∧
    retrieveContext env baseUrl ctxId = .ok body
  echoed : textOf body "content_hash" = some echoedHash
  hash : sdk.verifyContentHash body.stringify echoedHash = .ok ()
  producer : resolveProducerFingerprint sdk env ev body receipt = (some producerFp, .empty)
  signer : ∃ base, auditReceipt sdk env ev = .ok (base, some producerFp)
  keyId : ∃ did keyId, authorityToDidWeb ev.registryAuthority = some did ∧
    signatureText receipt "key_id" = some keyId ∧ sdk.stripFragment keyId = did ∧
    env.resolveReceiptKey keyId = .ok registryKey
  accepted : sdk.verifyReceipt receipt.stringify body.stringify registryKey.publicKeyB64 ctxId
    echoedHash producerFp = .ok ()

theorem resolveRegistryKey_eq_ok {authority : String}
    (h : resolveRegistryKey sdk env authority receipt = .ok registryKey) :
    ∃ did keyId, authorityToDidWeb authority = some did ∧
      truthy (signatureText receipt "key_id") = some keyId ∧ sdk.stripFragment keyId = did ∧
      env.resolveReceiptKey keyId = .ok registryKey := by
  unfold resolveRegistryKey at h
  split at h
  · cases h
  next keyId hk =>
  split at h
  · cases h
  split at h
  · cases h
  next did hd =>
  split at h
  · cases h
  next hs =>
  split at h
  · cases h
  next resolved hr =>
  cases h
  exact ⟨did, keyId, hd, hk, not_not.mp hs, hr⟩

theorem verifyReceipt_eq_ok {receiptJson bodyJson key : String}
    (h : verifyReceipt sdk receiptJson bodyJson key ctxId echoedHash producerFp = .ok ()) :
    sdk.verifyReceipt receiptJson bodyJson key ctxId echoedHash producerFp = .ok () := by
  unfold verifyReceipt at h
  split at h
  · next ho => exact ho
  · cases h

theorem verifyWithProducer_ran
    (h : (verifyWithProducer sdk env ev ctxId echoedHash producerFp body receipt).1.ran = true) :
    ∃ registryKey, resolveRegistryKey sdk env ev.registryAuthority receipt = .ok registryKey ∧
      sdk.verifyReceipt receipt.stringify body.stringify registryKey.publicKeyB64 ctxId echoedHash
        producerFp = .ok () := by
  unfold verifyWithProducer at h
  split at h
  · cases h
  next registryKey hk =>
  split at h
  · cases h
  next ho => exact ⟨registryKey, hk, verifyReceipt_eq_ok ho⟩

theorem verifyServedBody_of_hash (hec : truthy (textOf body "content_hash") = some echoedHash)
    (hh : sdk.verifyContentHash body.stringify echoedHash = .ok ()) :
    verifyServedBody sdk env ev ctxId body receipt =
      match resolveProducerFingerprint sdk env ev body receipt with
      | (none, findings) => (notRun none, findings)
      | (some producerFp, findings) =>
        ((verifyWithProducer sdk env ev ctxId echoedHash producerFp body receipt).1,
          findings.append
            (verifyWithProducer sdk env ev ctxId echoedHash producerFp body receipt).2) := by
  unfold verifyServedBody verifyContentHash
  rw [hec]
  dsimp only
  rewrite [hh]
  rfl

theorem verifyWithProducer_producerFp :
    (verifyWithProducer sdk env ev ctxId echoedHash producerFp body receipt).1.producerFp =
      some producerFp := by
  unfold verifyWithProducer
  split
  · rfl
  · split
    · rfl
    · rfl

theorem verifyServedBody_ran (h : (verifyServedBody sdk env ev ctxId body receipt).1.ran = true) :
    ∃ echoedHash producerFp findings, textOf body "content_hash" = some echoedHash ∧
      sdk.verifyContentHash body.stringify echoedHash = .ok () ∧
      resolveProducerFingerprint sdk env ev body receipt = (some producerFp, findings) ∧
      verifyServedBody sdk env ev ctxId body receipt =
        ((verifyWithProducer sdk env ev ctxId echoedHash producerFp body receipt).1,
          findings.append
            (verifyWithProducer sdk env ev ctxId echoedHash producerFp body receipt).2) := by
  cases hec : truthy (textOf body "content_hash") with
  | none =>
    unfold verifyServedBody at h
    rw [hec] at h
    cases h
  | some echoedHash =>
    cases hh : sdk.verifyContentHash body.stringify echoedHash with
    | error err =>
      unfold verifyServedBody verifyContentHash at h
      rw [hec] at h
      dsimp only at h
      rw [hh] at h
      cases h
    | ok =>
      rw [verifyServedBody_of_hash hec hh] at h ⊢
      split at h
      · cases h
      next producerFp findings hp =>
      exact ⟨echoedHash, producerFp, findings, (truthy_eq_some_iff.mp hec).1, hh, hp,
        rfl⟩

theorem verifyCryptographically_ran {outcome : CryptoOutcome} {more : Findings}
    (h : verifyCryptographically sdk env ev receipt = .ok (outcome, more)) (hr : outcome.ran = true) :
    ∃ ctxId baseUrl body, ev.ctxId = some ctxId ∧ env.registryBaseUrl = .ok (some baseUrl) ∧
      retrieveContext env baseUrl ctxId = .ok body ∧
      (outcome, more) = verifyServedBody sdk env ev ctxId body receipt := by
  unfold verifyCryptographically at h
  split at h
  · cases h
    cases hr
  split at h
  · cases h
    cases hr
  next ctxId hc =>
  split at h
  · cases h
    cases hr
  split at h
  · cases h
  next baseUrl? hb? =>
  split at h
  · cases h
    cases hr
  next baseUrl hu =>
  split at h
  · cases h
    cases hr
  next body hbo =>
  rw [(truthy_eq_some_iff.mp hu).1] at hb?
  exact ⟨ctxId, baseUrl, body, (truthy_eq_some_iff.mp hc).1, hb?, hbo,
    (Except.ok.inj h).symm⟩

theorem statusOf_isVerified {findings : Findings} {outcome : CryptoOutcome}
    (h : (statusOf findings outcome).isVerified = true) :
    findings.flags = [] ∧ findings.notes = [] ∧ outcome.ran = true := by
  unfold statusOf at h
  split at h
  · cases h
  next hf =>
  split at h
  · cases h
  next hn =>
  split at h
  · next hr =>
    exact ⟨List.length_eq_zero_iff.mp (by omega), List.length_eq_zero_iff.mp (by omega), hr⟩
  · cases h

theorem withRevocationClassification_base {otherDates : String → Option Int}
    {facts : Except JsError FactTable} {e : PublishEvent} {base : BaseVerdict}
    {fp? : Option String} {verdict : ReceiptVerdict}
    (h : withRevocationClassification sdk cfg otherDates facts e base fp? = .ok verdict) :
    verdict.toBaseVerdict = base := by
  unfold withRevocationClassification at h
  split at h
  · cases h
    rfl
  split at h
  · cases h
    rfl
  next signerFingerprint _ =>
  cases hc : classifyRevocationForEvent sdk cfg otherDates facts e signerFingerprint
      (verifiedCreatedAt base.status base.receiptCreatedAt) with
  | error err =>
    rw [hc] at h
    cases h
  | ok classification =>
    rw [hc] at h
    cases h
    rfl

theorem auditReceiptEvent_status {status : ReceiptStatus} (hs : status ≠ .error) :
    (auditReceiptEvent sdk env cfg ev).status = status ↔
      ∃ base fp? verdict, auditReceipt sdk env ev = .ok (base, fp?) ∧ base.status = status ∧
        withRevocationClassification sdk cfg env.otherDates env.facts ev.toPublishEvent base fp? =
          .ok verdict := by
  unfold auditReceiptEvent auditReceiptEventInner
  cases ha : auditReceipt sdk env ev with
  | error err => simp [hs.symm]
  | ok result =>
    obtain ⟨base, fp?⟩ := result
    dsimp only
    cases hc : withRevocationClassification sdk cfg env.otherDates env.facts
        ev.toPublishEvent base fp? with
    | error err => simp [hc, hs.symm]
    | ok verdict =>
      have hb := withRevocationClassification_base hc
      constructor
      · intro h
        exact ⟨base, fp?, verdict, rfl, hb ▸ h, hc⟩
      · rintro ⟨base', fp?', verdict', ho, hs, hc'⟩
        cases ho
        rw [hb]
        exact hs

theorem fullyChecked_of_auditReceipt {base : BaseVerdict} {fp? : Option String}
    (haud : auditReceipt sdk env ev = .ok (base, fp?)) (h : base.status.isVerified = true) :
    ∃ receipt body ctxId echoedHash producerFp registryKey,
      FullyChecked sdk env ev receipt body ctxId echoedHash producerFp registryKey ∧
        base.receiptCreatedAt = statedCreatedAt env receipt := by
  have hsgr := haud
  unfold auditReceipt at haud
  split at haud
  · split at haud
    · cases haud
    · cases haud
      cases h
    · cases haud
      cases h
  next receipt hrcpt =>
  split at haud
  · cases haud
  next outcome more hcry =>
  cases haud
  -- nothing was found and everything was run
  obtain ⟨hflg, hnotes, hran⟩ := statusOf_isVerified h
  obtain ⟨hstr, hmoreFlags⟩ := List.append_eq_nil_iff.mp hflg
  obtain ⟨-, hmoreNotes⟩ := List.append_eq_nil_iff.mp hnotes
  obtain ⟨ctxId, baseUrl, body, hcid, hurl, hbody, hsvd⟩ :=
    verifyCryptographically_ran hcry hran
  have hbodyRan : (verifyServedBody sdk env ev ctxId body receipt).1.ran = true := by
    rw [← hsvd]
    exact hran
  obtain ⟨echoedHash, producerFp, findings, hech, hok, hprod, hwith⟩ :=
    verifyServedBody_ran hbodyRan
  obtain ⟨rfl, rfl⟩ := Prod.mk.inj (hsvd.trans hwith)
  obtain ⟨registryKey, hkey, hacc⟩ := verifyWithProducer_ran hran
  obtain ⟨did, keyId, hdid, hkid, hstp, hres⟩ := resolveRegistryKey_eq_ok hkey
  have hcln : findings = .empty := by
    obtain ⟨flags, notes⟩ := findings
    obtain ⟨rfl, -⟩ := List.append_eq_nil_iff.mp hmoreFlags
    obtain ⟨rfl, -⟩ := List.append_eq_nil_iff.mp hmoreNotes
    rfl
  rw [verifyWithProducer_producerFp] at hsgr
  exact ⟨receipt, body, ctxId, echoedHash, producerFp, registryKey,
    { stored := hrcpt
      named := hcid
      structural := structuralFindings_flags.mp hstr
      fetched := ⟨baseUrl, hurl, hbody⟩
      echoed := hech
      hash := hok
      producer := hcln ▸ hprod
      signer := ⟨_, hsgr⟩
      keyId := ⟨did, keyId, hdid, (truthy_eq_some_iff.mp hkid).1, hstp, hres⟩
      accepted := hacc }, rfl⟩

theorem fullyChecked_of_isVerified (h : (auditReceiptEvent sdk env cfg ev).status.isVerified = true) :
    ∃ receipt body ctxId echoedHash producerFp registryKey,
      FullyChecked sdk env ev receipt body ctxId echoedHash producerFp registryKey := by
  obtain ⟨base, fp?, verdict, ha, hs, -⟩ :=
    (auditReceiptEvent_status (by rintro heq; rw [heq] at h; cases h)).mp rfl
  rw [← hs] at h
  obtain ⟨receipt, body, ctxId, echoedHash, producerFp, registryKey, hc, -⟩ :=
    fullyChecked_of_auditReceipt ha h
  exact ⟨receipt, body, ctxId, echoedHash, producerFp, registryKey, hc⟩

end Structural

/-! ## Honest registries -/

/-- The binding accepts exactly the receipts whose signature, whose binding to the body and whose
fingerprint match its arguments. The messages for a body or a context id that does not parse are not
used for a receipt that is bound to both. -/
structure AcceptsExactly (sdk : ReceiptSdk) (Signed : String → String → Prop)
    (Bound : String → String → String → String → Prop) (States : String → String → Prop) : Prop where
  accepts : ∀ receiptJson bodyJson key ctxId hash fingerprint,
    sdk.verifyReceipt receiptJson bodyJson key ctxId hash fingerprint = .ok () ↔
      Signed receiptJson key ∧ Bound receiptJson bodyJson ctxId hash ∧
        States receiptJson fingerprint
  rejects : ∀ receiptJson bodyJson key ctxId hash fingerprint err,
    Bound receiptJson bodyJson ctxId hash →
    sdk.verifyReceipt receiptJson bodyJson key ctxId hash fingerprint = .error err →
    classifyReceiptFailure err.message = .receipt_dishonest

/-- The registry tells the truth about an event. It serves the body it published or fails, its receipt
matches the event and the body, and its DID document, when it can be had, holds the key of the
receipt. -/
structure HonestAbout (sdk : ReceiptSdk) (Signed : String → String → Prop)
    (Bound : String → String → String → String → Prop) (States : String → String → Prop)
    (env : ReceiptEnv) (ev : ReceiptEvent) (receipt body : Json) (registryKey : String) : Prop where
  stored : ev.receipt = some receipt
  structural : Matches env.otherDates ev receipt
  fingerprint : (textOf receipt "key_fingerprint").isSome
  stated : ∀ fp, States receipt.stringify fp ↔ textOf receipt "key_fingerprint" = some fp
  signed : Signed receipt.stringify registryKey
  keyId : ∃ keyId, truthy (signatureText receipt "key_id") = some keyId ∧
    (∀ did, authorityToDidWeb ev.registryAuthority = some did → sdk.stripFragment keyId = did) ∧
    ∀ resolved, env.resolveReceiptKey keyId = .ok resolved → resolved.publicKeyB64 = registryKey
  serves : ∀ baseUrl ctxId served, retrieveContext env baseUrl ctxId = .ok served → served = body
  hash : ∃ hash, truthy (textOf body "content_hash") = some hash ∧
    sdk.verifyContentHash body.stringify hash = .ok () ∧
    ∀ ctxId, ev.ctxId = some ctxId → Bound receipt.stringify body.stringify ctxId hash
  offline : startsWith ev.agentId "did:key:" = true → verifyBodyOffline sdk body.stringify = .ok ()

/-- The audit gets to compare fingerprints, and the key that the producer's DID document now holds
under the key id of the body is another one than the receipt states. -/
structure KeyReplaced (sdk : ReceiptSdk) (env : ReceiptEnv) (ev : ReceiptEvent) (receipt body : Json)
    (fp : String) : Prop where
  supports : sdk.supportsReceipts = true
  fetched : ∃ ctxId baseUrl, truthy ev.ctxId = some ctxId ∧ isCanonicalCtxId ctxId = true ∧
    env.registryBaseUrl = .ok (some baseUrl) ∧ baseUrl ≠ "" ∧
    retrieveContext env baseUrl ctxId = .ok body
  agent : startsWith ev.agentId "did:key:" = false
  algorithm : (signatureText body "algorithm").getD "ed25519" = "ed25519"
  resolved : ∃ keyId, truthy (signatureText body "key_id") = some keyId ∧
    (env.resolveKey keyId >>= sdk.fingerprintEd25519B64) = .ok fp
  replaced : textOf receipt "key_fingerprint" ≠ some fp
  registryKey : ∃ key, resolveRegistryKey sdk env ev.registryAuthority receipt = .ok key

/-- The classification of a signer, without a creation time, does not throw. -/
def SignerClassified (sdk : ReceiptSdk) (cfg : ReceiptConfig) (env : ReceiptEnv) (ev : ReceiptEvent)
    (fp : String) : Prop :=
  cfg.keyRevocationCheckEnabled = true → fp ≠ "" →
    ∃ classification, classifyRevocationForEvent sdk cfg env.otherDates env.facts ev.toPublishEvent
      fp none = .ok classification

section Honest

variable {sdk : ReceiptSdk} {Signed : String → String → Prop}
  {Bound : String → String → String → String → Prop} {States : String → String → Prop}
  {env : ReceiptEnv} {cfg : ReceiptConfig} {ev : ReceiptEvent} {receipt body : Json}
  {registryKey ctxId echoedHash fp : String}

theorem HonestAbout.resolveRegistryKey_flags
    (h : HonestAbout sdk Signed Bound States env ev receipt body registryKey) {findings : Findings}
    (her : resolveRegistryKey sdk env ev.registryAuthority receipt = .error findings) :
    findings.flags = [] := by
  obtain ⟨keyId, hk, hs, -⟩ := h.keyId
  unfold resolveRegistryKey at her
  rw [hk] at her
  dsimp only at her
  split at her
  · cases her
    rfl
  split at her
  · cases her
    rfl
  next did hd =>
  rw [if_neg (not_not.mpr (hs did hd))] at her
  split at her
  · cases her
    rfl
  · cases her

theorem HonestAbout.verifyWithProducer_flags
    (h : HonestAbout sdk Signed Bound States env ev receipt body registryKey)
    (hs : AcceptsExactly sdk Signed Bound States)
    (hb : Bound receipt.stringify body.stringify ctxId echoedHash) :
    (verifyWithProducer sdk env ev ctxId echoedHash fp body receipt).2.flags ≠ [] ↔
      (∃ key, resolveRegistryKey sdk env ev.registryAuthority receipt = .ok key) ∧
        textOf receipt "key_fingerprint" ≠ some fp := by
  unfold verifyWithProducer
  cases hke : resolveRegistryKey sdk env ev.registryAuthority receipt with
  | error findings => simp [h.resolveRegistryKey_flags hke]
  | ok key =>
    -- the key is the registry's, so the fingerprint decides
    have hp : key.publicKeyB64 = registryKey := by
      obtain ⟨keyId, hk, -, hre⟩ := h.keyId
      obtain ⟨-, keyId', -, hk', -, hres⟩ := resolveRegistryKey_eq_ok hke
      cases hk.symm.trans hk'
      exact hre key hres
    have ha := hs.accepts receipt.stringify body.stringify key.publicKeyB64 ctxId
      echoedHash fp
    rw [hp, h.stated] at ha
    dsimp only
    unfold verifyReceipt
    cases hv : sdk.verifyReceipt receipt.stringify body.stringify key.publicKeyB64 ctxId
        echoedHash fp with
    | ok =>
      rw [hp] at hv
      simp [(ha.mp hv).2.2]
    | error err =>
      have hd := hs.rejects _ _ _ _ _ _ _ hb hv
      have hr : textOf receipt "key_fingerprint" ≠ some fp := by
        intro hst
        have := ha.mpr ⟨h.signed, hb, hst⟩
        rw [← hp, hv] at this
        cases this
      simp [hd, rejectionFindings, hr]

theorem HonestAbout.producer_cases
    (h : HonestAbout sdk Signed Bound States env ev receipt body registryKey) {fp? : Option String}
    {findings : Findings} (hp : resolveProducerFingerprint sdk env ev body receipt = (fp?, findings)) :
    findings.flags = [] ∧ ∀ fp, fp? = some fp → textOf receipt "key_fingerprint" ≠ some fp →
      startsWith ev.agentId "did:key:" = false ∧
        (signatureText body "algorithm").getD "ed25519" = "ed25519" ∧
        ∃ keyId, truthy (signatureText body "key_id") = some keyId ∧
          (env.resolveKey keyId >>= sdk.fingerprintEd25519B64) = .ok fp := by
  -- a fingerprint that is passed through is the one the receipt states
  have hc : ∀ fp, some ((textOf receipt "key_fingerprint").getD "") = some fp →
      textOf receipt "key_fingerprint" = some fp := by
    intro fp hf
    obtain ⟨stated, hs⟩ := Option.isSome_iff_exists.mp h.fingerprint
    rw [hs] at hf ⊢
    exact hf
  unfold resolveProducerFingerprint at hp
  dsimp only at hp
  split at hp
  · next ha =>
    rw [h.offline ha] at hp
    cases hp
    exact ⟨rfl, fun fp hf hn => absurd (hc fp hf) hn⟩
  next ha =>
  split at hp
  · cases hp
    exact ⟨rfl, by simp⟩
  next keyId hk =>
  split at hp
  · cases hp
    exact ⟨rfl, fun fp hf hn => absurd (hc fp hf) hn⟩
  next hal =>
  split at hp
  · next fingerprint hr =>
    cases hp
    refine ⟨rfl, fun fp hf _ => ?_⟩
    cases hf
    exact ⟨Bool.eq_false_iff.mpr ha, not_not.mp hal, keyId, hk, hr⟩
  · cases hp
    exact ⟨rfl, by simp⟩

theorem KeyReplaced.reaches_receipt (h : KeyReplaced sdk env ev receipt body fp)
    (hec : truthy (textOf body "content_hash") = some echoedHash)
    (hh : sdk.verifyContentHash body.stringify echoedHash = .ok ()) :
    ∃ ctxId, ev.ctxId = some ctxId ∧
      verifyCryptographically sdk env ev receipt =
        .ok ((verifyWithProducer sdk env ev ctxId echoedHash fp body receipt).1,
          Findings.empty.append
            (verifyWithProducer sdk env ev ctxId echoedHash fp body receipt).2) := by
  obtain ⟨ctxId, baseUrl, hc, hca, hu, hn, hb⟩ := h.fetched
  obtain ⟨keyId, hk, hr⟩ := h.resolved
  have hp : resolveProducerFingerprint sdk env ev body receipt = (some fp, .empty) := by
    unfold resolveProducerFingerprint
    rw [h.agent, if_neg Bool.false_ne_true, hk]
    dsimp only
    rw [if_neg (not_not.mpr h.algorithm), hr]
  refine ⟨ctxId, (truthy_eq_some_iff.mp hc).1, ?_⟩
  unfold verifyCryptographically
  rw [h.supports, Bool.not_true, if_neg Bool.false_ne_true, hc]
  dsimp only
  rw [hca, Bool.not_true, if_neg Bool.false_ne_true, hu]
  dsimp only
  rw [truthy_eq_some_iff.mpr ⟨rfl, hn⟩]
  dsimp only
  rw [hb]
  dsimp only
  rw [verifyServedBody_of_hash hec hh, hp]

theorem HonestAbout.keyReplaced_of_flags
    (h : HonestAbout sdk Signed Bound States env ev receipt body registryKey)
    (hsp : AcceptsExactly sdk Signed Bound States) {outcome : CryptoOutcome} {more : Findings}
    (hc : verifyCryptographically sdk env ev receipt = .ok (outcome, more)) (hf : more.flags ≠ []) :
    ∃ fp, outcome.producerFp = some fp ∧ KeyReplaced sdk env ev receipt body fp := by
  obtain ⟨echoedHash, hec, hh, hbd⟩ := h.hash
  unfold verifyCryptographically at hc
  split at hc
  · cases hc
    exact absurd rfl hf
  next hsu =>
  split at hc
  · cases hc
    exact absurd rfl hf
  next ctxId hci =>
  split at hc
  · cases hc
    exact absurd rfl hf
  next hca =>
  split at hc
  · cases hc
  next baseUrl? hb? =>
  split at hc
  · cases hc
    exact absurd rfl hf
  next baseUrl hu =>
  obtain ⟨rfl, hn⟩ := truthy_eq_some_iff.mp hu
  split at hc
  · cases hc
    exact absurd rfl hf
  next served hs =>
  -- what was served is what was published
  obtain rfl := h.serves baseUrl ctxId served hs
  rw [verifyServedBody_of_hash hec hh] at hc
  cases hp : resolveProducerFingerprint sdk env ev served receipt with
  | mk fp? findings =>
    obtain ⟨hcl, hcs⟩ := h.producer_cases hp
    rw [hp] at hc
    cases fp? with
    | none =>
      cases hc
      exact absurd hcl hf
    | some fp =>
      cases hc
      rw [Findings.flags_append, hcl, List.nil_append,
        h.verifyWithProducer_flags hsp (hbd ctxId (truthy_eq_some_iff.mp hci).1)] at hf
      obtain ⟨hk, hr⟩ := hf
      obtain ⟨hag, ha, hre⟩ := hcs fp rfl hr
      refine ⟨fp, verifyWithProducer_producerFp, ?_, ⟨ctxId, baseUrl, hci, ?_, hb?, hn, hs⟩, hag, ha,
        hre, hr, hk⟩
      · simpa using hsu
      · simpa using hca

theorem HonestAbout.flags_of_keyReplaced
    (h : HonestAbout sdk Signed Bound States env ev receipt body registryKey)
    (hs : AcceptsExactly sdk Signed Bound States) (hr : KeyReplaced sdk env ev receipt body fp) :
    ∃ outcome more, verifyCryptographically sdk env ev receipt = .ok (outcome, more) ∧
      more.flags ≠ [] ∧ outcome.producerFp = some fp := by
  obtain ⟨echoedHash, hec, hh, hb⟩ := h.hash
  obtain ⟨ctxId, hc, hcr⟩ := hr.reaches_receipt hec hh
  refine ⟨_, _, hcr, ?_, verifyWithProducer_producerFp⟩
  exact (h.verifyWithProducer_flags hs (hb ctxId hc)).mpr
    ⟨hr.registryKey, hr.replaced⟩

theorem exists_classified_iff {base : BaseVerdict} (hs : base.status = .discrepancy) :
    (∃ verdict, withRevocationClassification sdk cfg env.otherDates env.facts ev.toPublishEvent base
        (some fp) = .ok verdict) ↔ SignerClassified sdk cfg env ev fp := by
  have hc : verifiedCreatedAt base.status base.receiptCreatedAt = none := by
    rw [hs]
    rfl
  unfold withRevocationClassification SignerClassified
  rw [hc]
  cases cfg.keyRevocationCheckEnabled with
  | false => simp
  | true =>
    by_cases hf : fp = ""
    · simp [hf, truthy]
    · simp only [Bool.not_true, Bool.false_eq_true, if_false, Option.some_or, truthy, ne_eq, hf,
        not_false_eq_true, if_true, true_imp_iff]
      cases classifyRevocationForEvent sdk cfg env.otherDates env.facts ev.toPublishEvent fp none with
      | error err => simp [Except.map]
      | ok classification => simp [Except.map]

theorem statusOf_eq_discrepancy {findings : Findings} {outcome : CryptoOutcome} :
    statusOf findings outcome = .discrepancy ↔ findings.flags ≠ [] := by
  unfold statusOf
  split
  · next h => simpa using List.length_pos_iff.mp h
  · next h =>
    have hf : findings.flags = [] := List.length_eq_zero_iff.mp (by omega)
    refine iff_of_false ?_ (not_not.mpr hf)
    split
    · nofun
    · split
      · split
        · nofun
        · nofun
      · nofun

theorem HonestAbout.discrepancy_iff
    (h : HonestAbout sdk Signed Bound States env ev receipt body registryKey)
    (hsp : AcceptsExactly sdk Signed Bound States) :
    (auditReceiptEvent sdk env cfg ev).status = .discrepancy ↔
      ∃ fp, KeyReplaced sdk env ev receipt body fp ∧ SignerClassified sdk cfg env ev fp := by
  have hstr := structuralFindings_flags.mpr h.structural
  rw [auditReceiptEvent_status (by nofun)]
  unfold auditReceipt
  rw [h.stored]
  dsimp only
  constructor
  · rintro ⟨base, fp?, verdict, ha, hs, hcl⟩
    cases hc : verifyCryptographically sdk env ev receipt with
    | error err =>
      rw [hc] at ha
      cases ha
    | ok result =>
      rw [hc] at ha
      cases ha
      have hf := statusOf_eq_discrepancy.mp hs
      rw [Findings.flags_append, hstr, List.nil_append] at hf
      obtain ⟨fp, hfp, hr⟩ := h.keyReplaced_of_flags hsp hc hf
      rw [hfp] at hcl
      exact ⟨fp, hr, (exists_classified_iff hs).mp ⟨verdict, hcl⟩⟩
  · rintro ⟨fp, hr, hcl⟩
    obtain ⟨outcome, more, hc, hf, hfp⟩ := h.flags_of_keyReplaced hsp hr
    rw [hc]
    have hs : (baseVerdict env ev receipt outcome more).status = .discrepancy := by
      refine statusOf_eq_discrepancy.mpr ?_
      rw [Findings.flags_append, hstr, List.nil_append]
      exact hf
    obtain ⟨verdict, hv⟩ := (exists_classified_iff hs).mpr hcl
    rw [← hfp] at hv
    exact ⟨_, _, verdict, rfl, hs, hv⟩

end Honest

/-! ## Both directions -/

/-- Whatever a registry does, a verified verdict went through every check; and a registry that is
honest about an event is not flagged, exactly unless the audit gets to compare fingerprints when the
producer's key was replaced. -/
theorem receipt_verdicts {sdk : ReceiptSdk} {contentHash : String → String}
    {Signed : String → String → Prop} {Bound : String → String → String → String → Prop}
    {States : String → String → Prop}
    (hhash : ∀ bodyJson hash, sdk.verifyContentHash bodyJson hash = .ok () ↔
      contentHash bodyJson = hash)
    (hspec : AcceptsExactly sdk Signed Bound States) (env : ReceiptEnv) (cfg : ReceiptConfig)
    (ev : ReceiptEvent) :
    ((auditReceiptEvent sdk env cfg ev).status.isVerified = true →
      ∃ receipt body ctxId echoedHash producerFp registryKey,
        FullyChecked sdk env ev receipt body ctxId echoedHash producerFp registryKey ∧
          contentHash body.stringify = echoedHash) ∧
    ∀ receipt body registryKey,
      HonestAbout sdk Signed Bound States env ev receipt body registryKey →
      ((auditReceiptEvent sdk env cfg ev).status ≠ .discrepancy ↔
        ∀ fp, KeyReplaced sdk env ev receipt body fp → ¬ SignerClassified sdk cfg env ev fp) := by
  constructor
  · intro hv
    obtain ⟨receipt, body, ctxId, echoedHash, producerFp, registryKey, hc⟩ :=
      fullyChecked_of_isVerified hv
    exact ⟨receipt, body, ctxId, echoedHash, producerFp, registryKey, hc,
      (hhash _ _).mp hc.hash⟩
  · intro receipt body registryKey hh
    rw [ne_eq, hh.discrepancy_iff hspec]
    simp only [not_exists, not_and]

/-! ## A publication -/

/-- The receipt of a context of `did:web:p.example`, for a producer's key. -/
def sampleReceipt (producerKey : String) : Json :=
  .obj [("ctx_id", .str "acdp://r.example/0b7d9a3e-1c2f-4a5b-8c6d-7e8f9a0b1c2d"),
    ("key_fingerprint", .str ("sha256:" ++ producerKey)), ("origin_registry", .str "r.example"),
    ("registry_did", .str "did:web:r.example"), ("created_at", .str "2026-06-12T00:00:00.000Z"),
    ("signature", .obj [("algorithm", .str "ed25519"), ("key_id", .str "did:web:r.example#k")])]

def sampleSignedBody (agentId keyId value : String) : Json :=
  .obj [("agent_id", .str agentId), ("content_hash", .str "sha256:body"),
    ("signature", .obj [("algorithm", .str "ed25519"), ("key_id", .str keyId),
      ("value", .str value)])]

def samplePublished : Json := sampleSignedBody "did:web:p.example" "did:web:p.example#k" "s"

def sampleReceiptEvent (agentId producerKey : String) : ReceiptEvent where
  id := "event"
  tenantId := "default"
  runId := none
  ctxId := some "acdp://r.example/0b7d9a3e-1c2f-4a5b-8c6d-7e8f9a0b1c2d"
  lineageId := none
  agentId := agentId
  registryAuthority := "r.example"
  keyFingerprint := some ("sha256:" ++ producerKey)
  rawPayload := [("registry_receipt", sampleReceipt producerKey)]
  createdAt := "2026-06-12T00:00:01.000Z"

def sampleReceiptEnv (body : Json) (producerKey : String) : ReceiptEnv where
  advertisesReceipts := .ok (some true)
  registryBaseUrl := .ok (some "https://r.example")
  get _ := .ok ⟨200, .ok (.obj [("body", body)])⟩
  resolveKey _ := .ok producerKey
  resolveReceiptKey _ := .ok ⟨"registry key", false⟩
  otherDates _ := none
  facts := .ok .empty

def sampleReceiptSdk (producerKey : String) : ReceiptSdk where
  supportsReceipts := true
  verifyContentHash _ hash :=
    if "sha256:body" = hash then .ok () else .error ⟨none, "content hash mismatch"⟩
  explainHashMismatch _ _ := none
  verifyBodyOffline := some fun _ => .ok ()
  fingerprintEd25519B64 key := .ok ("sha256:" ++ key)
  verifyReceipt _ _ key _ _ fingerprint :=
    if key = "registry key" ∧ fingerprint = "sha256:" ++ producerKey then .ok ()
    else .error ⟨none, "receipt verification failed"⟩
  stripFragment := stripFragment
  classifyUnderRevocation := none

def sampleReceiptConfig : ReceiptConfig := ⟨true, [], .same_registry, 100⟩

theorem sampleReceiptSdk_hash (producerKey bodyJson ha : String) :
    (sampleReceiptSdk producerKey).verifyContentHash bodyJson ha = .ok () ↔
      "sha256:body" = ha := by
  show (if "sha256:body" = ha then _ else _) = _ ↔ _
  split
  · next h => simp [h]
  · next h => simp [h]

theorem sampleReceiptSdk_accepts (producerKey : String) :
    AcceptsExactly (sampleReceiptSdk producerKey) (fun _ key => key = "registry key")
      (fun _ _ _ _ => True) (fun _ fingerprint => fingerprint = "sha256:" ++ producerKey) := by
  constructor
  · intro receiptJson bodyJson key ctxId ha fingerprint
    show (if _ then _ else _) = _ ↔ _
    split
    · next h => simp [h.1, h.2]
    · next h => simpa using h
  · intro receiptJson bodyJson key ctxId ha fingerprint err _ h
    change (if _ then _ else _) = _ at h
    split at h
    · cases h
    · cases h
      decide

theorem sampleReceiptEnv_honest (now : String) :
    HonestAbout (sampleReceiptSdk "old key") (fun _ key => key = "registry key")
      (fun _ _ _ _ => True) (fun _ fingerprint => fingerprint = "sha256:" ++ "old key")
      (sampleReceiptEnv samplePublished now)
      (sampleReceiptEvent "did:web:p.example" "old key") (sampleReceipt "old key") samplePublished
      "registry key" where
  stored := rfl
  structural := by
    refine structuralFindings_flags.mp ?_
    show (structuralFindings (fun _ => none) _ _).flags = []
    decide
  fingerprint := rfl
  stated fp := by
    show fp = _ ↔ some _ = some fp
    rw [Option.some.injEq, eq_comm]
  signed := rfl
  keyId := by
    refine ⟨"did:web:r.example#k", by decide, ?_, ?_⟩
    · intro did hdid
      have hexp : authorityToDidWeb "r.example" = some "did:web:r.example" := by decide
      cases hexp.symm.trans hdid
      decide
    · intro resolved hres
      cases hres
      rfl
  serves baseUrl ctxId served h := (Except.ok.inj h).symm
  hash := ⟨"sha256:body", by decide, (sampleReceiptSdk_hash _ _ _).mpr rfl, fun _ _ => trivial⟩
  offline _ := rfl

/-- With the key still in place, the receipt is verified. -/
theorem receipt_verdicts_sample :
    (∃ receipt body ctxId echoedHash producerFp registryKey,
      FullyChecked (sampleReceiptSdk "old key") (sampleReceiptEnv samplePublished "old key")
        (sampleReceiptEvent "did:web:p.example" "old key") receipt body ctxId echoedHash producerFp
        registryKey ∧ "sha256:body" = echoedHash) ∧
    (auditReceiptEvent (sampleReceiptSdk "old key")
      (sampleReceiptEnv samplePublished "old key")
      sampleReceiptConfig (sampleReceiptEvent "did:web:p.example" "old key")).status ≠
        .discrepancy := by
  have h := receipt_verdicts (sampleReceiptSdk_hash "old key") (sampleReceiptSdk_accepts "old key")
    (sampleReceiptEnv samplePublished "old key")
    sampleReceiptConfig (sampleReceiptEvent "did:web:p.example" "old key")
  refine ⟨h.1 (by decide), (h.2 _ _ _ (sampleReceiptEnv_honest "old key")).mpr ?_⟩
  intro fp hr
  obtain ⟨keyId, -, hf⟩ := hr.resolved
  cases hf
  exact absurd rfl hr.replaced

/-- With another key under the same id, the same registry is flagged. -/
theorem receipt_verdicts_replaced :
    HonestAbout (sampleReceiptSdk "old key") (fun _ key => key = "registry key")
      (fun _ _ _ _ => True) (fun _ fingerprint => fingerprint = "sha256:" ++ "old key")
      (sampleReceiptEnv samplePublished "new key")
      (sampleReceiptEvent "did:web:p.example" "old key") (sampleReceipt "old key") samplePublished
      "registry key" ∧
    (auditReceiptEvent (sampleReceiptSdk "old key")
      (sampleReceiptEnv samplePublished "new key")
      sampleReceiptConfig (sampleReceiptEvent "did:web:p.example" "old key")).status =
        .discrepancy :=
  ⟨sampleReceiptEnv_honest "new key", by decide⟩

end AcdpControlPlane
