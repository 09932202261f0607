import AcdpControlPlane.Receipt.Classify

/-!
# The receipt audit

`auditEvent` of `src/audit/receipt-audit.service.ts` checks what a registry said about one
publication: the receipt against the event, the context that the registry serves against its hash, and
the receipt against both with the keys of the registry and of the producer.
-/

namespace AcdpControlPlane

/-! ## Events and the outside -/

structure ReceiptEvent extends PublishEvent where
  createdAt : String

structure ResolvedReceiptKey where
  publicKeyB64 : String
  historical : Bool
deriving DecidableEq, Repr

/-- What the audit of one event meets outside. -/
structure ReceiptEnv where
  advertisesReceipts : Except JsError (Option Bool)
  registryBaseUrl : Except JsError (Option String)
  get : String → Except JsError FederationResponse
  resolveKey : String → Except JsError String
  resolveReceiptKey : String → Except JsError ResolvedReceiptKey
  otherDates : String → Option Int
  facts : Except JsError FactTable

/-! ## Flags and notes -/

/-- What a phase adds: trust flags, and notes on checks that could not be made. -/
structure Findings where
  flags : List String
  notes : List String
deriving DecidableEq, Repr

namespace Findings

def empty : Findings := ⟨[], []⟩

def flag (text : String) : Findings := ⟨[text], []⟩

def note (text : String) : Findings := ⟨[], ["unverified: " ++ text]⟩

def append (a b : Findings) : Findings := ⟨a.flags ++ b.flags, a.notes ++ b.notes⟩

def flagIf (condition : Prop) [Decidable condition] (text : String) : Findings :=
  if condition then flag text else empty

end Findings

def CLOCK_SKEW_TOLERANCE_MS : Int := 5 * 60 * 1000

def RECEIPT_SIG_ALG : String := "ed25519"

/-! ## Structural checks -/

def textOf (v : Json) (name : String) : Option String := Json.strOf (v.member name)

def signatureText (v : Json) (name : String) : Option String :=
  textOf ((v.member "signature").getD .null) name

/-- Both texts are there, and they differ. An empty text counts as absent. -/
def Differ (a b : Option String) : Prop := ∃ s t, truthy a = some s ∧ truthy b = some t ∧ s ≠ t

instance (a b : Option String) : Decidable (Differ a b) :=
  match ha : truthy a, hb : truthy b with
  | some s, some t =>
    decidable_of_iff (s ≠ t)
      ⟨fun h => ⟨s, t, ha, hb, h⟩, fun ⟨_, _, hs, ht, h⟩ => by
        cases ha.symm.trans hs
        cases hb.symm.trans ht
        exact h⟩
  | none, _ => isFalse fun ⟨_, _, hs, _⟩ => nomatch ha.symm.trans hs
  | some _, none => isFalse fun ⟨_, _, _, ht, _⟩ => nomatch hb.symm.trans ht

def skewMs (otherDates : String → Option Int) (ev : ReceiptEvent) (receipt : Json) : Option Int :=
  match JsDate.parse otherDates ev.createdAt,
      (truthy (textOf receipt "created_at")).bind (JsDate.parse otherDates) with
  | some arrivalMs, some claimedMs => some (arrivalMs - claimedMs)
  | _, _ => none

/-- The receipt must claim the identity of the registry it came from. -/
def registryDidFindings (authority : String) (receipt : Json) : Findings :=
  match authorityToDidWeb authority with
  | none => .note (nonCanonicalAuthorityReason authority)
  | some expectedRegistryDid =>
    .flagIf (textOf receipt "registry_did" ≠ some expectedRegistryDid)
      ("registry_did_mismatch: receipt '" ++ (textOf receipt "registry_did").getD "" ++ "' != '" ++
        expectedRegistryDid ++ "'")

/-- The fields of the receipt against those of the event. Only the impossible direction of the skew is
flagged. -/
def structuralFindings (otherDates : String → Option Int) (ev : ReceiptEvent) (receipt : Json) :
    Findings :=
  let shown name := (textOf receipt name).getD ""
  let checks : List Findings := [
    .flagIf ((truthy ev.ctxId).isSome ∧ textOf receipt "ctx_id" ≠ ev.ctxId)
      ("ctx_id_mismatch: receipt '" ++ shown "ctx_id" ++ "' != event '" ++ ev.ctxId.getD "" ++ "'"),
    .flagIf (Differ ev.lineageId (textOf receipt "lineage_id"))
      ("lineage_id_mismatch: receipt '" ++ shown "lineage_id" ++ "' != event '" ++
        ev.lineageId.getD "" ++ "'"),
    .flagIf (Differ ev.keyFingerprint (textOf receipt "key_fingerprint"))
      ("key_fingerprint_mismatch: receipt '" ++ shown "key_fingerprint" ++ "' != event '" ++
        ev.keyFingerprint.getD "" ++ "'"),
    .flagIf (textOf receipt "origin_registry" ≠ some ev.registryAuthority)
      ("origin_registry_mismatch: receipt '" ++ shown "origin_registry" ++ "' != source '" ++
        ev.registryAuthority ++ "'"),
    registryDidFindings ev.registryAuthority receipt,
    .flagIf (∃ skew ∈ skewMs otherDates ev receipt, skew < -CLOCK_SKEW_TOLERANCE_MS)
      ("created_at_after_observation: receipt claims " ++ shown "created_at" ++
        " but the event arrived " ++ ev.createdAt)]
  checks.foldr .append .empty

/-! ## Cryptographic verification -/

structure CryptoOutcome where
  ran : Bool
  historical : Bool
  producerFp : Option String
deriving DecidableEq, Repr

def notRun (producerFp : Option String) : CryptoOutcome := ⟨false, false, producerFp⟩

section Audit

variable (sdk : ReceiptSdk) (env : ReceiptEnv)

def retrieveContext (baseUrl ctxId : String) : Except String Json :=
  match env.get (trimSlash baseUrl ++ "/contexts/" ++ encodeURIComponent ctxId) with
  | .error err => .error ("context fetch failed: " ++ err.message)
  | .ok resp =>
    if !resp.isSuccess then .error ("context fetch returned HTTP " ++ toString resp.status)
    else
      match resp.json with
      | .error err => .error ("context fetch failed: " ++ err.message)
      | .ok .null =>
        .error "context fetch failed: Cannot read properties of null (reading 'body')"
      | .ok full =>
        match (full.member "body").filter (Json.isObjectLike ∘ some) with
        | some body => .ok body
        | none => .error "retrieval response has no body member"

/-- The fingerprint of the producer's key. For a `did:key` agent the body is verified offline and the
receipt's claim is passed through, and so it is for an algorithm without a fingerprint helper. -/
def resolveProducerFingerprint (ev : ReceiptEvent) (body receipt : Json) :
    Option String × Findings :=
  let claimedFp := (textOf receipt "key_fingerprint").getD ""
  if startsWith ev.agentId "did:key:" then
    match verifyBodyOffline sdk body.stringify with
    | .error reason => (none, .flag ("body_signature_invalid: " ++ reason))
    | .ok () => (some claimedFp, .empty)
  else
    let algorithm := (signatureText body "algorithm").getD "ed25519"
    match truthy (signatureText body "key_id") with
    | none => (none, .note "body has no signature.key_id")
    | some keyId =>
      if algorithm ≠ "ed25519" then
        (some claimedFp, .note ("producer algorithm '" ++ algorithm ++ "' is unexpected in a " ++
          "receipts-mode event (Ed25519/did:key only) and the SDK has no P-256 fingerprint helper " ++
          "— receipt fingerprint passed through"))
      else
        match env.resolveKey keyId >>= sdk.fingerprintEd25519B64 with
        | .ok fingerprint => (some fingerprint, .empty)
        | .error err => (none, .note ("producer key resolution failed: " ++ err.message))

def resolveRegistryKey (authority : String) (receipt : Json) : Except Findings ResolvedReceiptKey :=
  match truthy (signatureText receipt "key_id") with
  | none => .error (.flag "receipt_invalid: signature.key_id missing")
  | some receiptKeyId =>
    match (truthy (signatureText receipt "algorithm")).filter (· ≠ RECEIPT_SIG_ALG) with
    | some receiptAlg =>
      .error (.note ("receipt signature algorithm '" ++ receiptAlg ++ "' is unsupported — " ++
        "registries MUST sign receipts with " ++ RECEIPT_SIG_ALG ++ " (RFC-ACDP-0010)"))
    | none =>
      match authorityToDidWeb authority with
      | none =>
        .error (.note ("cannot derive the registry's did:web identity to bind the receipt key to " ++
          "— " ++ nonCanonicalAuthorityReason authority))
      | some expectedRegistryDid =>
        if sdk.stripFragment receiptKeyId ≠ expectedRegistryDid then
          .error (.flag ("receipt_key_foreign_did: '" ++ receiptKeyId ++ "' is not a key of '" ++
            expectedRegistryDid ++ "'"))
        else
          match env.resolveReceiptKey receiptKeyId with
          | .error err =>
            .error (.note ("registry receipt key resolution failed: " ++ err.message))
          | .ok resolved => .ok resolved

def rejectionFindings (authority ctxId : String) : ReceiptFailureKind × String → Findings
  | (.malformed_body, reason) =>
    .note ("'" ++ authority ++ "' served a body the SDK cannot parse: " ++ reason)
  | (.ctx_id_rejected, reason) =>
    .note ("the SDK's CtxId::parse rejected ctx_id '" ++ ctxId ++ "' that the host pre-check " ++
      "accepted — the host mirror does not enforce every CtxId::parse bound (e.g. the 63-character " ++
      "DNS-label limit); the SDK is the authority: " ++ reason)
  | (.receipt_dishonest, reason) => .flag ("receipt_invalid: " ++ reason)

def hashMismatch (bodyJson echoedHash reason : String) : Findings :=
  let detail := match truthy (sdk.explainHashMismatch bodyJson echoedHash) with
    | some diagnosis => " [" ++ String.ofList (diagnosis.toList.take 300) ++ "]"
    | none => ""
  .flag ("content_hash_mismatch: " ++ reason ++ detail)

/-- The verification from a producer's fingerprint on: the key of the registry, and the receipt. -/
def verifyWithProducer (ev : ReceiptEvent) (ctxId echoedHash producerFp : String)
    (body receipt : Json) : CryptoOutcome × Findings :=
  match resolveRegistryKey sdk env ev.registryAuthority receipt with
  | .error findings => (notRun producerFp, findings)
  | .ok registryKey =>
    match verifyReceipt sdk receipt.stringify body.stringify registryKey.publicKeyB64 ctxId
      echoedHash producerFp with
    | .error failure => (notRun producerFp, rejectionFindings ev.registryAuthority ctxId failure)
    | .ok () => (⟨true, registryKey.historical, producerFp⟩, .empty)

def verifyServedBody (ev : ReceiptEvent) (ctxId : String) (body receipt : Json) :
    CryptoOutcome × Findings :=
  match truthy (textOf body "content_hash") with
  | none => (notRun none, .note "retrieved body has no content_hash")
  | some echoedHash =>
    match verifyContentHash sdk body.stringify echoedHash with
    | .error reason => (notRun none, hashMismatch sdk body.stringify echoedHash reason)
    | .ok () =>
      match resolveProducerFingerprint sdk env ev body receipt with
      | (none, findings) => (notRun none, findings)
      | (some producerFp, findings) =>
        let (outcome, more) := verifyWithProducer sdk env ev ctxId echoedHash producerFp body receipt
        (outcome, findings.append more)

/-- Verify a receipt in full. Only the query for the registry may throw. -/
def verifyCryptographically (ev : ReceiptEvent) (receipt : Json) :
    Except JsError (CryptoOutcome × Findings) :=
  if !sdk.supportsReceipts then .ok (notRun none, .empty)
  else
    match truthy ev.ctxId with
    | none => .ok (notRun none, .note "event has no ctx_id to fetch")
    | some ctxId =>
      if !isCanonicalCtxId ctxId then
        .ok (notRun none, .note ("stored ctx_id '" ++ ctxId ++ "' is not canonical " ++
          "(acdp://<lowercase DNS authority>/<lowercase v4 UUID>) — the receipt cannot be " ++
          "verified against a ctx_id the protocol cannot parse"))
      else
        match env.registryBaseUrl with
        | .error err => .error err
        | .ok baseUrl? =>
          match truthy baseUrl? with
          | none =>
            .ok (notRun none, .note ("no base_url known for '" ++ ev.registryAuthority ++ "'"))
          | some baseUrl =>
            match retrieveContext env baseUrl ctxId with
            | .error reason => .ok (notRun none, .note reason)
            | .ok body => .ok (verifyServedBody sdk env ev ctxId body receipt)

/-! ## Verdicts -/

def statusOf (findings : Findings) (outcome : CryptoOutcome) : ReceiptStatus :=
  if 0 < findings.flags.length then .discrepancy
  else if 0 < findings.notes.length then .error
  else if outcome.ran then
    if outcome.historical then .verified_historical else .verified
  else .structural

def statedCreatedAt (receipt : Json) : Option String :=
  (truthy (textOf receipt "created_at")).filter fun text =>
    (JsDate.parse env.otherDates text).isSome

def baseVerdict (ev : ReceiptEvent) (receipt : Json) (outcome : CryptoOutcome) (more : Findings) :
    BaseVerdict :=
  let findings := (structuralFindings env.otherDates ev receipt).append more
  ⟨statusOf findings outcome, findings.flags ++ findings.notes, statedCreatedAt env receipt,
    skewMs env.otherDates ev receipt⟩

/-- The audit of an event up to its classification: the verdict, and the fingerprint of the signer if
one was derived. -/
def auditReceipt (ev : ReceiptEvent) : Except JsError (BaseVerdict × Option String) :=
  match ev.receipt with
  | none =>
    match env.advertisesReceipts with
    | .error err => .error err
    | .ok (some true) =>
      .ok (⟨.discrepancy, ["missing_receipt: '" ++ ev.registryAuthority ++ "' advertises " ++
        "acdp-registry-receipts but the publish event carried no registry_receipt"], none, none⟩,
        none)
    | .ok _ => .ok (⟨.no_receipt, [], none, none⟩, none)
  | some receipt =>
    match verifyCryptographically sdk env ev receipt with
    | .error err => .error err
    | .ok (outcome, more) => .ok (baseVerdict env ev receipt outcome more, outcome.producerFp)

variable (cfg : ReceiptConfig)

/-- `auditEventInner`: the verdict with the signer classified. -/
def auditReceiptEventInner (ev : ReceiptEvent) : Except JsError ReceiptVerdict :=
  match auditReceipt sdk env ev with
  | .error err => .error err
  | .ok (base, producerFp) =>
    withRevocationClassification sdk cfg env.otherDates env.facts ev.toPublishEvent base producerFp

/-- `auditEvent`: a throw becomes a verdict. -/
def auditReceiptEvent (ev : ReceiptEvent) : ReceiptVerdict :=
  match auditReceiptEventInner sdk env cfg ev with
  | .ok verdict => verdict
  | .error err =>
    ⟨⟨.error, ["unverified: audit crashed: " ++ err.message], none, none⟩, none⟩

end Audit

end AcdpControlPlane
