import AcdpControlPlane.Common.Multibase
import AcdpControlPlane.Revocation.Lineage

/-!
# Verifying a revocation

The pipeline of `src/audit/revocation-audit.service.ts` over one body: content hash, signature and
signer fingerprint, shape (`src/audit/revocation-verify.ts`), registry binding
(`src/audit/revocation-binding.ts`), and the fetch and context id binding that precede it for an
event. The context id and the lineage id of a body are outside what it signs. An event is fetched by
its context id, and the served body must carry that id; a lineage member is taken as it is served.
-/

namespace AcdpControlPlane

/-! ## The outside -/

/-- The binding. A function that verifies throws on failure. -/
structure RevocationSdk where
  verifyContentHash : String → String → Except NativeError Unit
  verifyBodyOffline : String → Except NativeError Unit
  verifyCtxIdBinding : String → String → Except NativeError Unit
  fingerprintEd25519B64 : String → Except JsError String
  parseKeyRevocation : String → String → Except NativeError Json
  stripFragment : String → String
  verifySignatureB64 : String → String → String → Bool

/-- What the verification of one event or the walk of one lineage meets outside. -/
structure Outside where
  get : String → Except FetchError FederationResponse
  resolveKey : String → Except ResolveError String
  registryBaseUrl : String → String → Except JsError (Option String)
  registryDid : String → String → Except JsError (Option String)

/-- A hard failure is as unusable for a single body as a permanent one. -/
def toStatus : LineageFailureClass → UnverifiedStatus
  | .transient => .unavailable
  | .permanent => .invalid
  | .hard => .invalid

/-! ## Shape -/

inductive ParseRevocationFailureCode where
  | schema_violation
  | key_not_authorized
  | invalid_input
  | unknown
deriving DecidableEq, Repr

def ParseRevocationFailureCode.text : ParseRevocationFailureCode → String
  | .schema_violation => "schema_violation"
  | .key_not_authorized => "key_not_authorized"
  | .invalid_input => "invalid_input"
  | .unknown => "unknown"

def codeOf (err : NativeError) : ParseRevocationFailureCode :=
  if err.code = some "schema_violation" then .schema_violation
  else if err.code = some "key_not_authorized" then .key_not_authorized
  else if err.code = some "invalid_input" then .invalid_input
  else .unknown

def trustClassOf (v : Option Json) : Option TrustClass :=
  if Json.strOf v = some "producer_signed" then some .producer_signed
  else if Json.strOf v = some "registry_attested" then some .registry_attested
  else none

def parseKeyRevocation (sdk : RevocationSdk) (bodyJson signerFingerprint : String) :
    Except JsError (Except (ParseRevocationFailureCode × String) ParsedRevocation) :=
  if signerFingerprint = "" then
    .error ⟨"parseKeyRevocation requires a non-empty signerFingerprint (RFC-ACDP-0014 §5 step 2 — " ++
      "an empty value would silently disable the not-self-signed defence for a did:web signer)"⟩
  else
    match sdk.parseKeyRevocation bodyJson signerFingerprint with
    | .error err => .ok (.error (codeOf err, err.message))
    | .ok .null =>
      .ok (.error (.unknown, "Cannot read properties of null (reading 'trust_class')"))
    | .ok parsed =>
      let text k := (Json.strOf (parsed.member k)).getD ""
      match trustClassOf (parsed.member "trust_class") with
      | none =>
        .ok (.error (.unknown, "parseKeyRevocation returned an unrecognised trust_class: " ++
          ((parsed.member "trust_class").map Json.stringify).getD "undefined"))
      | some trustClass =>
        .ok (.ok ⟨text "revoked_key_fingerprint", text "compromised_since",
          Json.strOf (parsed.member "reason"), Json.strOf (parsed.member "revoked_key_id"),
          text "revoked_key_controller", text "publisher", trustClass⟩)

/-! ## Registry binding -/

/-- The publisher must be the authority that was reached, and what that registry says it is. -/
def crossCheckRegistryBinding (publisher servingAuthority capabilitiesRegistryDid : String) :
    Except String Unit :=
  match authorityToDidWeb servingAuthority with
  | none => .error (nonCanonicalAuthorityReason servingAuthority)
  | some expectedDid =>
    if publisher ≠ expectedDid then
      .error ("key-revocation publisher '" ++ publisher ++ "' != serving authority's DID '" ++
        expectedDid ++ "' (RFC-ACDP-0014 §6 steps 2-3)")
    else if publisher ≠ capabilitiesRegistryDid then
      .error ("key-revocation publisher '" ++ publisher ++ "' != capabilities.registry_did '" ++
        capabilitiesRegistryDid ++ "' (RFC-ACDP-0014 §6 steps 2-3)")
    else .ok ()

section Verify

variable (sdk : RevocationSdk) (out : Outside)

/-! ## Signature -/

/-- The fingerprint of the signer of a `did:key` body, whose key is in its agent id. -/
def didKeySigner (bodyJson agentId : String) : Except JsError (Except Outcome String) :=
  match sdk.verifyBodyOffline bodyJson with
  | .error err => .ok (.error (.invalid ("body_signature_invalid: " ++ errMsg err)))
  | .ok () =>
    match decodeEd25519Multibase agentId with
    | .error ⟨_, some algorithm⟩ =>
      .ok (.error (.unsupported ("producer signing algorithm '" ++ algorithm ++
        "' has no SDK fingerprint helper for revocation verification (signature independently " ++
        "verified offline; dropped for capability, not authenticity)")))
    | .error ⟨reason, none⟩ =>
      .ok (.error (.invalid ("undecodable did:key agent_id: " ++ reason)))
    | .ok publicKey => (sdk.fingerprintEd25519B64 (toBase64 publicKey)).map .ok

/-- The fingerprint of the signer of a `did:web` body, whose key is resolved. -/
def didWebSigner (body : Json) (echoedHash agentId : String) :
    Except JsError (Except Outcome String) :=
  let sig := (body.member "signature").getD .null
  match truthy (Json.strOf (sig.member "key_id")), truthy (Json.strOf (sig.member "value")) with
  | some keyId, some sigValue =>
    if !includesChar keyId '#' ∨ keyId.toList.getLast? = some '#' then
      .ok (.error (.invalid ("signature.key_id '" ++ keyId ++ "' has no non-empty #fragment")))
    else if sdk.stripFragment keyId ≠ agentId then
      .ok (.error (.invalid ("key_not_authorized: signature.key_id DID '" ++
        sdk.stripFragment keyId ++ "' != agent_id '" ++ agentId ++ "'")))
    else
      match (truthy (Json.strOf (sig.member "algorithm"))).filter (· ≠ "ed25519") with
      | some algorithm =>
        .ok (.error (.unsupported ("producer algorithm '" ++ algorithm ++
          "' has no SDK fingerprint helper for revocation verification")))
      | none =>
        match out.resolveKey keyId with
        | .error ⟨some code, message⟩ =>
          .ok (.error (.unverified (toStatus (classifyLineageFailure (.resolution code))) none
            ("signer key resolution failed (" ++ code.text ++ "): " ++ message)))
        | .error ⟨none, message⟩ =>
          .ok (.error (.unavailable ("signer key resolution failed: " ++ message)))
        | .ok publicKeyB64 =>
          if !sdk.verifySignatureB64 publicKeyB64 echoedHash sigValue then
            .ok (.error (.invalid "body_signature_invalid: signature verification failed"))
          else (sdk.fingerprintEd25519B64 publicKeyB64).map .ok
  | _, _ => .ok (.error (.invalid "body signature missing key_id/value"))

def bodySigner (bodyJson : String) (body : Json) (echoedHash : String) :
    Except JsError (Except Outcome String) :=
  let agentId := (Json.strOf (body.member "agent_id")).getD ""
  if startsWith agentId "did:key:" then didKeySigner sdk bodyJson agentId
  else if startsWith agentId "did:web:" then didWebSigner sdk out body echoedHash agentId
  else
    .ok (.error (.invalid
      ("key-revocation bodies require a did:web or did:key agent_id; got '" ++ agentId ++ "'")))

/-! ## Bodies and events -/

/-- The binding policy for a registry's attestation of a key it does not hold. -/
def attestedOutcome (registryAuthority tenantId : String) (revocation : ParsedRevocation)
    (body : Json) : Except JsError Outcome :=
  match out.registryDid registryAuthority tenantId with
  | .error err => .error err
  | .ok none =>
    .ok (.unverified .unavailable (some .registry_attested) ("capabilities for '" ++
      registryAuthority ++ "' are unreadable — cannot run the §6 binding check"))
  | .ok (some registryDid) =>
    match crossCheckRegistryBinding revocation.publisher registryAuthority registryDid with
    | .error reason => .ok (.unverified .invalid (some .registry_attested) reason)
    | .ok () => .ok (.verified revocation body)

/-- Steps two to five of the pipeline, over a body that was fetched. -/
def verifyRevocationBody (registryAuthority tenantId bodyJson : String) (body : Json) :
    Except JsError Outcome :=
  match truthy (Json.strOf (body.member "content_hash")) with
  | none => .ok (.invalid "retrieved body has no content_hash")
  | some echoedHash =>
    match sdk.verifyContentHash bodyJson echoedHash with
    | .error err => .ok (.invalid ("content_hash_mismatch: " ++ errMsg err))
    | .ok () =>
      match bodySigner sdk out bodyJson body echoedHash with
      | .error err => .error err
      | .ok (.error outcome) => .ok outcome
      | .ok (.ok signerFingerprint) =>
        match parseKeyRevocation sdk bodyJson signerFingerprint with
        | .error err => .error err
        | .ok (.error (code, reason)) => .ok (.invalid (code.text ++ ": " ++ reason))
        | .ok (.ok revocation) =>
          match revocation.trustClass with
          | .producer_signed => .ok (.verified revocation body)
          | .registry_attested => attestedOutcome out registryAuthority tenantId revocation body

/-- An event of the ingest, with the columns the audit reads. -/
structure ContextEvent where
  id : String
  tenantId : String
  ctxId : Option String
  lineageId : Option String
  contextType : Option String
  registryAuthority : String
  createdAt : Int
deriving DecidableEq, Repr

/-- The body that a retrieval response holds, or why it holds none. -/
def retrievedBody (resp : FederationResponse) : Except String Json :=
  match resp.json with
  | .error err => .error ("retrieval response is not valid JSON: " ++ err.message)
  | .ok .null =>
    .error "retrieval response is not valid JSON: Cannot read properties of null (reading 'body')"
  | .ok full =>
    match full.member "body" with
    | some body =>
      if Json.isObjectLike (some body) then .ok body
      else .error "retrieval response has no body member"
    | none => .error "retrieval response has no body member"

/-- The served body must carry the context id that was asked for. -/
def checkCtxIdBinding (bodyJson ctxId : String) : Except String Unit :=
  match sdk.verifyCtxIdBinding bodyJson ctxId with
  | .ok () => .ok ()
  | .error err =>
    if startsWith err.message "context substitution: " then
      .error ("ctx_id substitution: " ++ errMsg err)
    else .error ("ctx_id binding unverifiable: " ++ errMsg err)

/-- `verifyEventInner`: fetch the context of an event and verify its body. -/
def verifyEventInner (ev : ContextEvent) : Except JsError Outcome :=
  match truthy ev.ctxId with
  | none => .ok (.invalid "event has no ctx_id")
  | some ctxId =>
    match out.registryBaseUrl ev.registryAuthority ev.tenantId with
    | .error err => .error err
    | .ok baseUrl? =>
      match truthy baseUrl? with
      | none => .ok (.unavailable ("no base_url known for '" ++ ev.registryAuthority ++ "'"))
      | some baseUrl =>
        match out.get (trimSlash baseUrl ++ "/contexts/" ++ encodeURIComponent ctxId) with
        | .error ⟨some code, message⟩ =>
          .ok (.unverified (toStatus (classifyLineageFailure (.fetch code))) none
            ("context fetch failed (" ++ code.text ++ "): " ++ message))
        | .error ⟨none, message⟩ => .ok (.unavailable ("context fetch failed: " ++ message))
        | .ok resp =>
          if !resp.isSuccess then
            .ok (.unverified (toStatus (classifyLineageFailure (.status resp.status))) none
              ("context fetch returned HTTP " ++ toString resp.status))
          else
            match retrievedBody resp with
            | .error reason => .ok (.invalid reason)
            | .ok body =>
              match checkCtxIdBinding sdk body.stringify ctxId with
              | .error reason => .ok (.invalid reason)
              | .ok () =>
                verifyRevocationBody sdk out ev.registryAuthority ev.tenantId body.stringify body

/-- Verify one event. A throw is a defect of the pipeline, and the event is tried again later. -/
def verifyEvent (ev : ContextEvent) : Outcome :=
  match verifyEventInner sdk out ev with
  | .ok outcome => outcome
  | .error err => .unavailable ("unverified: audit crashed: " ++ err.message)

end Verify

end AcdpControlPlane
