import AcdpControlPlane.Common.HttpError
import AcdpControlPlane.Common.Throwing
import AcdpControlPlane.Ingest.Payload
import AcdpControlPlane.Revocation.Lineage
import AcdpControlPlane.Storage.Enrollment

/-!
# Admission of a delivery

`handle` of `src/ingest/ingest.service.ts`, up to the call of the processor. A delivery says which
registry sent it. The enrollment of that registry gives the secret of the signature and the tenant; a
registry without one uses the secret of the deployment and the tenant of the header.
-/

namespace AcdpControlPlane

open Throwing

/-! ## Signatures -/

/-- The value of a hex digit, of either case. -/
def hexNibble? (c : Char) : Option ℕ :=
  if '0' ≤ c ∧ c ≤ '9' then some (c.toNat - 48)
  else if 'a' ≤ c ∧ c ≤ 'f' then some (c.toNat - 87)
  else if 'A' ≤ c ∧ c ≤ 'F' then some (c.toNat - 55)
  else none

/-- The bytes `Buffer.from(s, 'hex')`: decoding stops at the first pair that is not hex. -/
def bufferFromHex : List Char → List UInt8
  | a :: b :: rest =>
    match hexNibble? a, hexNibble? b with
    | some high, some low => UInt8.ofNat (16 * high + low) :: bufferFromHex rest
    | _, _ => []
  | _ => []

/-- The HMAC-SHA256 of a body matches a header, which is hex with or without `sha256=` before it. An
empty secret skips the verification. -/
def verifyWebhookSignature (hmacSha256 : String → List UInt8 → String) (body : List UInt8)
    (signatureHeader secret : String) : Bool :=
  if secret = "" then true
  else if signatureHeader = "" then false
  else
    let expected := hmacSha256 secret body
    let provided :=
      if startsWith signatureHeader "sha256=" then signatureHeader.toList.drop 7
      else signatureHeader.toList
    -- different lengths are refused before the bytes are compared
    bufferFromHex expected.toList == bufferFromHex provided

/-! ## Requests -/

structure DomainPack where
  id : String
  contextTypes : List String
deriving DecidableEq, Repr

structure IngestConfig where
  ingestMaxBodyBytes : ℕ
  ingestMaxJsonDepth : ℕ
  webhookSecret : String
  ingestRequireEnrollment : Bool
  ingestStrictTenant : Bool
  packs : List DomainPack
deriving DecidableEq, Repr

structure IngestEnv where
  hmacSha256 : String → List UInt8 → String
  decodeUtf8 : List UInt8 → String
  jsonParse : String → Option Json

/-- The arguments of `handle`, and what the quota service answers while it runs. -/
structure IngestRequest where
  body : List UInt8
  signatureHeader : Option String
  headerRunId : Option String
  headerTenantId : Option String
  originHeader : Option String
  eventIdHeader : Option String
  enforceQuota : String → Except HttpException Unit

/-- What `handle` throws. -/
inductive IngestError where
  | http (e : HttpException)
  | js (e : JsError)
deriving DecidableEq, Repr

/-- The arguments of `process`. -/
structure ProcessCall where
  payload : Json
  runIdOverride : Option Json
  tenantId : String
  originHeader : Option String
  eventId : Option Json

def IngestError.badRequest (message : String) : IngestError := .http (badRequestException message)

/-! ## Who sent it -/

section Parts

variable (env : IngestEnv) (config : IngestConfig)

def parsePayload (text : String) : Except IngestError Json :=
  match env.jsonParse text with
  | none => .error (.badRequest "Invalid JSON payload")
  | some payload => do
    Throwing.require (Json.isObjectLike (some payload)) (.badRequest "Payload must be an object")
    return payload

/-- The authority that a payload names, by itself or in its context. -/
def claimedAuthority (payload : Json) : Option Json :=
  if Json.isTruthy (payload.member "registry_authority") then payload.member "registry_authority"
  else (extractAuthorityFromCtxId (payload.member "ctx_id")).map .str

def enrollmentOf (enrollments : EnrollmentTable) : Option Json → Option RegistryEnrollment
  | some (.str authority) => enrollments.findByAuthority authority
  | _ => none

structure Sender where
  secret : String
  tenantId : String
  enrolledBaseUrl : Option String
deriving DecidableEq, Repr

def unenrolledTenant (headerTenantId : String) : String :=
  if config.ingestStrictTenant && headerTenantId ≠ DEFAULT_TENANT_ID then DEFAULT_TENANT_ID
  else headerTenantId

def templateText (v : Option Json) (absent : String) : Except IngestError String :=
  match v with
  | none => .ok absent
  | some v => v.toJsString.mapError .js

def resolveSender (claimed : Option Json) (headerTenantId : String) :
    Option RegistryEnrollment → Except IngestError Sender
  | some enrollment =>
    if enrollment.enabled then
      .ok {
        secret := (truthy enrollment.webhookSecret).getD config.webhookSecret
        tenantId := enrollment.tenantId
        enrolledBaseUrl := enrollment.baseUrl }
    else do
      let name ← templateText claimed "undefined"
      throw (.http (appException "REGISTRY_DISABLED" ("Registry '" ++ name ++ "' is disabled") 403))
  | none =>
    if config.ingestRequireEnrollment then do
      let name ← templateText claimed "(unknown)"
      throw (.http
        (appException "REGISTRY_NOT_ENROLLED" ("Registry '" ++ name ++ "' is not enrolled") 403))
    else .ok ⟨config.webhookSecret, unenrolledTenant config headerTenantId, none⟩

/-! ## The checks after the signature -/

def ACDP_BASE_TYPES : List String :=
  ["data_snapshot", "analysis", "prediction", "alert"] ++ REVOCATION_CONTEXT_TYPES

def checkContextType (contextType : Option Json) : Except IngestError Unit :=
  match config.packs, Json.nullish contextType with
  | [], _ => .ok ()
  | _, none => .ok ()
  | packs, some contextType => do
    let requested ← contextType.toJsString.mapError .js
    Throwing.require
      (ACDP_BASE_TYPES.contains requested || packs.any (·.contextTypes.contains requested))
      (.badRequest ("context_type '" ++ requested ++ "' not declared by any active domain pack (" ++
        String.intercalate ", " (packs.map DomainPack.id) ++ ")"))

/-- The members that an event has to have. Only a publish carries an agent. -/
def checkFields (payload : Json) : Except IngestError Unit := do
  Throwing.require (Json.isTruthy (payload.member "type"))
    (.badRequest "Missing required field: type")
  Throwing.require
    (Json.strOf (payload.member "type") != some "context_published" ||
      Json.isTruthy (payload.member "agent_id"))
    (.badRequest "Missing required field: agent_id")
  checkContextType config (payload.member "context_type")

/-- The payload with the authority of its context, unless it has one of its own. -/
def withAuthority (payload : Json) : Except IngestError Json :=
  if Json.isTruthy (payload.member "registry_authority") then .ok payload
  else
    match extractAuthorityFromCtxId (payload.member "ctx_id") with
    | some extracted => .ok (payload.setMember "registry_authority" (.str extracted))
    | none =>
      .error (.badRequest
        "Missing required field: registry_authority (and ctx_id has no authority)")

def eventIdOf (eventIdHeader : Option String) (payload : Json) : Option Json :=
  match truthy (eventIdHeader.map jsTrim) with
  | some eventId => some (.str eventId)
  | none => payload.member "event_id"

end Parts

/-! ## Acceptance -/

section Accept

variable (env : IngestEnv) (config : IngestConfig) (enrollments : EnrollmentTable)
  (req : IngestRequest)

def IngestRequest.tenant : String := req.headerTenantId.getD DEFAULT_TENANT_ID

def SignedUnder (secret : String) : Prop :=
  verifyWebhookSignature env.hmacSha256 req.body (req.signatureHeader.getD "") secret = true

instance (secret : String) : Decidable (SignedUnder env req secret) :=
  inferInstanceAs (Decidable (_ = true))

/-- Everything that `handle` does before it calls the processor. -/
def acceptRequest : Except IngestError ProcessCall := do
  Throwing.require (req.body.length ≤ config.ingestMaxBodyBytes)
    (.badRequest ("Payload exceeds " ++ toString config.ingestMaxBodyBytes ++ "-byte limit"))
  let text := env.decodeUtf8 req.body
  Throwing.require (!exceedsJsonDepth text config.ingestMaxJsonDepth)
    (.badRequest ("Payload JSON nesting exceeds depth limit (" ++
      toString config.ingestMaxJsonDepth ++ ")"))
  let payload ← parsePayload env text
  -- the claimed authority only selects the secret and the tenant
  let claimed := claimedAuthority payload
  let sender ← resolveSender config claimed req.tenant (enrollmentOf enrollments claimed)
  Throwing.require (SignedUnder env req sender.secret)
    (.http (appException "INVALID_WEBHOOK_SIGNATURE" "Invalid webhook signature" 401))
  checkFields config payload
  let attributed ← withAuthority payload
  -- only accepted requests are counted, under the tenant they were accepted for
  (req.enforceQuota sender.tenantId).mapError .http
  return {
    payload := attributed
    runIdOverride := (req.headerRunId.map .str).or (attributed.member "run_id")
    tenantId := sender.tenantId
    originHeader := req.originHeader.or sender.enrolledBaseUrl
    eventId := eventIdOf req.eventIdHeader attributed }

structure AcceptedRequest (payload : Json) (sender : Sender) (call : ProcessCall) : Prop where
  parsed : env.jsonParse (env.decodeUtf8 req.body) = some payload
  resolved : resolveSender config (claimedAuthority payload) req.tenant
    (enrollmentOf enrollments (claimedAuthority payload)) = .ok sender
  signed : SignedUnder env req sender.secret
  fields : checkFields config payload = .ok ()
  attributed : withAuthority payload = .ok call.payload
  tenant : call.tenantId = sender.tenantId

variable {env config enrollments req}

theorem parsePayload_eq_ok {text : String} {payload : Json}
    (h : parsePayload env text = .ok payload) : env.jsonParse text = some payload := by
  unfold parsePayload at h
  cases hp : env.jsonParse text with
  | none =>
    rw [hp] at h
    cases h
  | some parsed =>
    rw [hp] at h
    obtain ⟨_, -, h⟩ := bind_eq_ok.mp h
    cases h
    rfl

theorem acceptRequest_eq_ok {call : ProcessCall} (h : acceptRequest env config enrollments req = .ok call) :
    ∃ payload sender, AcceptedRequest env config enrollments req payload sender call := by
  obtain ⟨_, -, h⟩ := bind_eq_ok.mp h
  obtain ⟨_, -, h⟩ := bind_eq_ok.mp h
  obtain ⟨payload, hp, h⟩ := bind_eq_ok.mp h
  obtain ⟨sender, hs, h⟩ := bind_eq_ok.mp h
  obtain ⟨_, hsi, h⟩ := bind_eq_ok.mp h
  obtain ⟨_, hf, h⟩ := bind_eq_ok.mp h
  obtain ⟨attributed, ha, h⟩ := bind_eq_ok.mp h
  obtain ⟨_, -, h⟩ := bind_eq_ok.mp h
  cases h
  refine ⟨payload, sender, parsePayload_eq_ok hp, hs, ?_, hf, ha, rfl⟩
  exact of_decide_eq_true (require_eq_ok.mp hsi)

theorem resolveSender_some {claimed : Option Json} {tenant : String} {enrollment : RegistryEnrollment}
    {sender : Sender} (h : resolveSender config claimed tenant (some enrollment) = .ok sender) :
    enrollment.enabled = true ∧ sender.tenantId = enrollment.tenantId ∧
      sender.secret = (truthy enrollment.webhookSecret).getD config.webhookSecret := by
  simp only [resolveSender] at h
  split at h
  · next hen =>
    cases h
    exact ⟨hen, rfl, rfl⟩
  · obtain ⟨_, -, h⟩ := bind_eq_ok.mp h
    cases h

theorem resolveSender_none {claimed : Option Json} {tenant : String} {sender : Sender}
    (h : resolveSender config claimed tenant none = .ok sender) :
    config.ingestRequireEnrollment = false ∧
      sender.tenantId = unenrolledTenant config tenant ∧ sender.secret = config.webhookSecret := by
  simp only [resolveSender] at h
  split at h
  · obtain ⟨_, -, h⟩ := bind_eq_ok.mp h
    cases h
  · next hr =>
    cases h
    exact ⟨by simpa using hr, rfl, rfl⟩

end Accept

end AcdpControlPlane
