import AcdpControlPlane.Receipt.Verdicts

/-!
# The signer that a verified receipt is classified by

Revocations name a key by its fingerprint, so an event is classified rightly only if the fingerprint
that goes into the classification is that of the key which signed the context. A registry that is
hostile chooses the body it serves and the receipt it issues. The audit must therefore tie three
things together: the agent of the event, a key of that agent, and the signature of the body.
-/

namespace AcdpControlPlane

/-! ## Keys and signatures -/

/-- A public key of an agent: the one in a `did:key`, or one that the agent's own DID document lists
under some id. -/
def KeyOf (strip : String → String) (Resolves : String → String → Prop) (agentId key : String) :
    Prop :=
  if startsWith agentId "did:key:" then
    ∃ publicKey, decodeEd25519Multibase agentId = .ok publicKey ∧ toBase64 publicKey = key
  else ∃ keyId, strip keyId = agentId ∧ Resolves keyId key

/-- The signature of a body, over the hash that it states, verifies under a key. -/
def SignatureVerifies (verifySignatureB64 : String → String → String → Bool) (key : String)
    (body : Json) : Prop :=
  ∃ hash value, textOf body "content_hash" = some hash ∧ signatureText body "value" = some value ∧
    verifySignatureB64 key hash value = true

def SignedBy (strip : String → String) (Resolves : String → String → Prop)
    (fingerprint : String → Except JsError String)
    (verifySignatureB64 : String → String → String → Bool) (agentId : String) (body : Json)
    (fp : String) : Prop :=
  ∃ key, KeyOf strip Resolves agentId key ∧ fingerprint key = .ok fp ∧
    SignatureVerifies verifySignatureB64 key body

/-! ## Revocation bodies -/

section Sibling

variable {sdk : RevocationSdk} {out : Outside} {bodyJson echoedHash fp : String} {body : Json}

theorem textOf_agent_id {method : String}
    (h : startsWith ((textOf body "agent_id").getD "") method = true) (hm : method ≠ "") :
    textOf body "agent_id" = some ((textOf body "agent_id").getD "") := by
  cases ha : textOf body "agent_id" with
  | some agentId => rfl
  | none =>
    rw [ha] at h
    have hn : method.toList = [] := by simpa [startsWith] using h
    exact absurd (String.toList_eq_nil_iff.mp hn) hm

theorem didKeySigner_signedBy {agentId : String} (ha : startsWith agentId "did:key:" = true)
    (ho : sdk.verifyBodyOffline bodyJson = .ok () →
      ∀ publicKey, decodeEd25519Multibase agentId = .ok publicKey →
        SignatureVerifies sdk.verifySignatureB64 (toBase64 publicKey) body)
    (h : didKeySigner sdk bodyJson agentId = .ok (.ok fp)) :
    SignedBy sdk.stripFragment (fun keyId key => out.resolveKey keyId = .ok key)
      sdk.fingerprintEd25519B64 sdk.verifySignatureB64 agentId body fp := by
  unfold didKeySigner at h
  split at h
  · cases h
  next hv =>
  split at h
  · cases h
  · cases h
  next publicKey hp =>
  cases hf : sdk.fingerprintEd25519B64 (toBase64 publicKey) with
  | error err =>
    rw [hf] at h
    cases h
  | ok fingerprint =>
    rw [hf] at h
    cases h
    refine ⟨toBase64 publicKey, ?_, hf, ho hv publicKey hp⟩
    unfold KeyOf
    rw [if_pos ha]
    exact ⟨publicKey, hp, rfl⟩

theorem didWebSigner_signedBy {agentId : String} (ha : ¬ startsWith agentId "did:key:" = true)
    (hec : textOf body "content_hash" = some echoedHash)
    (h : didWebSigner sdk out body echoedHash agentId = .ok (.ok fp)) :
    SignedBy sdk.stripFragment (fun keyId key => out.resolveKey keyId = .ok key)
      sdk.fingerprintEd25519B64 sdk.verifySignatureB64 agentId body fp := by
  unfold didWebSigner at h
  dsimp only at h
  split at h
  · next keyId sigValue hki hs =>
    split at h
    · cases h
    split at h
    · cases h
    next hst =>
    split at h
    · cases h
    split at h
    · cases h
    · cases h
    next key hk =>
    split at h
    · cases h
    next hv =>
    cases hf : sdk.fingerprintEd25519B64 key with
    | error err =>
      rw [hf] at h
      cases h
    | ok fingerprint =>
      rw [hf] at h
      cases h
      refine ⟨key, ?_, hf, echoedHash, sigValue, hec, (truthy_eq_some_iff.mp hs).1, ?_⟩
      · unfold KeyOf
        rw [if_neg ha]
        exact ⟨keyId, not_not.mp hst, hk⟩
      · simpa using hv
  · cases h

theorem bodySigner_signedBy (ho : ∀ agentId, textOf body "agent_id" = some agentId →
      sdk.verifyBodyOffline bodyJson = .ok () →
      ∀ publicKey, decodeEd25519Multibase agentId = .ok publicKey →
        SignatureVerifies sdk.verifySignatureB64 (toBase64 publicKey) body)
    (hec : textOf body "content_hash" = some echoedHash)
    (h : bodySigner sdk out bodyJson body echoedHash = .ok (.ok fp)) :
    ∃ agentId, textOf body "agent_id" = some agentId ∧
      SignedBy sdk.stripFragment (fun keyId key => out.resolveKey keyId = .ok key)
        sdk.fingerprintEd25519B64 sdk.verifySignatureB64 agentId body fp := by
  unfold bodySigner at h
  dsimp only at h
  split at h
  · next ha =>
    have hs := textOf_agent_id ha (by decide)
    exact ⟨_, hs, didKeySigner_signedBy ha (ho _ hs) h⟩
  next ha =>
  split at h
  · next hw =>
    exact ⟨_, textOf_agent_id hw (by decide), didWebSigner_signedBy ha hec h⟩
  · cases h

end Sibling

/-! ## Receipts -/

section Receipts

variable {sdk : ReceiptSdk} {env : ReceiptEnv} {cfg : ReceiptConfig} {ev : ReceiptEvent}
  {receipt body : Json} {fp : String} {verifySignatureB64 : String → String → String → Bool}

/-- The answers are authentic. For a `did:key` agent, the signature verifies under the key of the
event's agent and the receipt states its fingerprint; for another, it verifies under the key that the
body's key id resolves to, and that is a key of the event's agent. -/
def Authentic (sdk : ReceiptSdk) (verifySignatureB64 : String → String → String → Bool)
    (env : ReceiptEnv) (ev : ReceiptEvent) (receipt body : Json) : Prop :=
  ∃ key, KeyOf sdk.stripFragment (fun keyId key => env.resolveKey keyId = .ok key) ev.agentId key ∧
    SignatureVerifies verifySignatureB64 key body ∧
    if startsWith ev.agentId "did:key:" then
      sdk.fingerprintEd25519B64 key = .ok ((textOf receipt "key_fingerprint").getD "")
    else ∃ keyId, signatureText body "key_id" = some keyId ∧ env.resolveKey keyId = .ok key

theorem resolveProducerFingerprint_empty
    (h : resolveProducerFingerprint sdk env ev body receipt = (some fp, .empty)) :
    if startsWith ev.agentId "did:key:" then fp = (textOf receipt "key_fingerprint").getD ""
    else ∃ keyId key, signatureText body "key_id" = some keyId ∧ env.resolveKey keyId = .ok key ∧
      sdk.fingerprintEd25519B64 key = .ok fp := by
  unfold resolveProducerFingerprint at h
  dsimp only at h
  split at h
  · next ha =>
    rw [if_pos ha]
    split at h
    · cases h
    · cases h
      rfl
  next ha =>
  rw [if_neg ha]
  split at h
  · cases h
  next keyId hki =>
  split at h
  · cases h
  split at h
  · next fingerprint hr =>
    cases h
    cases hk : env.resolveKey keyId with
    | error err =>
      rw [hk] at hr
      cases hr
    | ok key =>
      rw [hk] at hr
      exact ⟨keyId, key, (truthy_eq_some_iff.mp hki).1, hk, hr⟩
  · cases h

theorem signedBy_iff_authentic (hi : ∀ key key' fp, sdk.fingerprintEd25519B64 key = .ok fp →
      sdk.fingerprintEd25519B64 key' = .ok fp → key = key')
    (h : resolveProducerFingerprint sdk env ev body receipt = (some fp, .empty)) :
    SignedBy sdk.stripFragment (fun keyId key => env.resolveKey keyId = .ok key)
        sdk.fingerprintEd25519B64 verifySignatureB64 ev.agentId body fp ↔
      Authentic sdk verifySignatureB64 env ev receipt body := by
  have hc := resolveProducerFingerprint_empty h
  unfold SignedBy Authentic
  by_cases ha : startsWith ev.agentId "did:key:" = true
  · rw [if_pos ha] at hc
    subst hc
    simp only [if_pos ha]
    constructor
    · rintro ⟨key, hk, hf, hv⟩
      exact ⟨key, hk, hv, hf⟩
    · rintro ⟨key, hk, hv, hf⟩
      exact ⟨key, hk, hf, hv⟩
  · rw [if_neg ha] at hc
    obtain ⟨keyId, resolved, hki, hr, hf⟩ := hc
    simp only [if_neg ha]
    constructor
    · rintro ⟨key, hk, hf', hv⟩
      -- fingerprints are injective, so the agent's key is the one that was resolved
      obtain rfl := hi _ _ _ hf hf'
      exact ⟨resolved, hk, hv, keyId, hki, hr⟩
    · rintro ⟨key, hk, hv, keyId', hki', hr'⟩
      cases hki.symm.trans hki'
      cases hr.symm.trans hr'
      exact ⟨resolved, hk, hf, hv⟩

/-- Whatever the registry answers: when a receipt is verified, the fingerprint that goes into the
classification is that of a key of the event's agent, under which the fetched body's signature
verifies, exactly if the answers are authentic. -/
theorem verified_signer_iff (verifySignatureB64 : String → String → String → Bool)
    (hinjective : ∀ key key' fp, sdk.fingerprintEd25519B64 key = .ok fp →
      sdk.fingerprintEd25519B64 key' = .ok fp → key = key')
    (hverified : (auditReceiptEvent sdk env cfg ev).status.isVerified = true) :
    ∃ receipt body base fp baseUrl ctxId, ev.receipt = some receipt ∧ ev.ctxId = some ctxId ∧
      env.registryBaseUrl = .ok (some baseUrl) ∧ retrieveContext env baseUrl ctxId = .ok body ∧
      auditReceipt sdk env ev = .ok (base, some fp) ∧
      auditReceiptEventInner sdk env cfg ev = withRevocationClassification sdk cfg env.otherDates
        env.facts ev.toPublishEvent base (some fp) ∧
      (SignedBy sdk.stripFragment (fun keyId key => env.resolveKey keyId = .ok key)
          sdk.fingerprintEd25519B64 verifySignatureB64 ev.agentId body fp ↔
        Authentic sdk verifySignatureB64 env ev receipt body) := by
  obtain ⟨receipt, body, ctxId, echoedHash, fp, registryKey, hc⟩ :=
    fullyChecked_of_isVerified hverified
  obtain ⟨base, ha⟩ := hc.signer
  obtain ⟨baseUrl, hu, hb⟩ := hc.fetched
  refine ⟨receipt, body, base, fp, baseUrl, ctxId, hc.stored, hc.named, hu, hb,
    ha, ?_, signedBy_iff_authentic hinjective hc.producer⟩
  unfold auditReceiptEventInner
  rw [ha]

end Receipts

/-! ## Forgeries -/

def sampleVerifySignature (key _hash value : String) : Bool := value = "signed by " ++ key

theorem sampleReceiptSdk_injective (producerKey key key' fp : String)
    (h : (sampleReceiptSdk producerKey).fingerprintEd25519B64 key = .ok fp)
    (h' : (sampleReceiptSdk producerKey).fingerprintEd25519B64 key' = .ok fp) : key = key' := by
  have heq : "sha256:" ++ key = "sha256:" ++ key' := Except.ok.inj (h.trans h'.symm)
  have hl := congrArg String.toList heq
  rw [String.toList_append, String.toList_append] at hl
  exact String.toList_inj.mp (List.append_cancel_left hl)

def sampleAuthentic : Json :=
  sampleSignedBody "did:web:p.example" "did:web:p.example#k" "signed by old key"

/-- The agent's own signature makes the verified receipt one of the real signer. -/
theorem verified_signer_iff_sample :
    ∃ base fp, auditReceipt (sampleReceiptSdk "old key") (sampleReceiptEnv sampleAuthentic "old key")
        (sampleReceiptEvent "did:web:p.example" "old key") = .ok (base, some fp) ∧
      SignedBy stripFragment
        (fun keyId key => (sampleReceiptEnv sampleAuthentic "old key").resolveKey keyId = .ok key)
        (sampleReceiptSdk "old key").fingerprintEd25519B64 sampleVerifySignature "did:web:p.example"
        sampleAuthentic fp := by
  have hv : (auditReceiptEvent (sampleReceiptSdk "old key")
      (sampleReceiptEnv sampleAuthentic "old key") sampleReceiptConfig
      (sampleReceiptEvent "did:web:p.example" "old key")).status.isVerified = true := by
    decide
  obtain ⟨receipt, body, base, fp, baseUrl, ctxId, hr, -, -, hb, ha, -, hi⟩ :=
    verified_signer_iff sampleVerifySignature (sampleReceiptSdk_injective "old key") hv
  have hs : (sampleReceiptEvent "did:web:p.example" "old key").receipt =
      some (sampleReceipt "old key") := rfl
  cases hs.symm.trans hr
  cases (Except.ok.inj hb)
  refine ⟨base, fp, ha, hi.mpr ?_⟩
  have hag : ¬ startsWith "did:web:p.example" "did:key:" = true := by decide
  refine ⟨"old key", ?_, ⟨"sha256:body", "signed by old key", rfl, rfl, by decide⟩, ?_⟩
  · show if startsWith "did:web:p.example" "did:key:" = true then _ else _
    refine ⟨"did:web:p.example#k", ?_, rfl⟩
    decide
  · show if startsWith "did:web:p.example" "did:key:" = true then _ else _
    exact ⟨"did:web:p.example#k", rfl, rfl⟩

def sampleForged : Json := sampleSignedBody "did:web:p.example" "did:web:p.example#k" "forged"

def sampleDidKey : String := "did:key:z6MkeTG3bFFSLYVU7VqhgZxqr6YzpaGrQtFMh1uvqGy1vDnP"

/-- Two verified receipts whose signer is not the real one. The first body is not signed at all. The
second is, offline, by a `did:key`, but its receipt states the fingerprint of another key. -/
theorem verified_signer_forged :
    ((auditReceiptEvent (sampleReceiptSdk "old key") (sampleReceiptEnv sampleForged "old key")
        sampleReceiptConfig (sampleReceiptEvent "did:web:p.example" "old key")).status = .verified ∧
      ∀ fp, ¬ SignedBy stripFragment
        (fun keyId key => (sampleReceiptEnv sampleForged "old key").resolveKey keyId = .ok key)
        (sampleReceiptSdk "old key").fingerprintEd25519B64 sampleVerifySignature "did:web:p.example"
        sampleForged fp) ∧
    ∃ body base,
      (auditReceiptEvent (sampleReceiptSdk "other key") (sampleReceiptEnv body "")
        sampleReceiptConfig (sampleReceiptEvent sampleDidKey "other key")).status = .verified ∧
      auditReceipt (sampleReceiptSdk "other key") (sampleReceiptEnv body "")
        (sampleReceiptEvent sampleDidKey "other key") = .ok (base, some "sha256:other key") ∧
      ∀ verifySignatureB64, ¬ SignedBy stripFragment
        (fun keyId key => (sampleReceiptEnv body "").resolveKey keyId = .ok key)
        (sampleReceiptSdk "other key").fingerprintEd25519B64 verifySignatureB64 sampleDidKey body
        "sha256:other key" := by
  refine ⟨⟨by decide, ?_⟩, ?_⟩
  · rintro fp ⟨key, -, -, ha, value, -, hv, hvs⟩
    cases hv
    have hs : "forged" = "signed by " ++ key := of_decide_eq_true hvs
    have hh := congrArg (fun s => s.toList.head?) hs
    exact absurd hh (by simp)
  · refine ⟨sampleSignedBody sampleDidKey sampleDidKey "s", _, by decide, rfl, ?_⟩
    rintro verifySignatureB64 ⟨key, hk, hf, -⟩
    have ho := sampleReceiptSdk_injective "other key" key "other key" _ hf rfl
    subst ho
    unfold KeyOf at hk
    obtain ⟨publicKey, hde, hb⟩ := hk
    have hd : (decodeEd25519Multibase sampleDidKey).toOption.all (toBase64 · ≠ "other key") = true := by
      decide
    rw [hde] at hd
    exact of_decide_eq_true hd hb

end AcdpControlPlane
