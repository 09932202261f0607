import AcdpControlPlane.Common.Js

/-!
# Receipts and the binding that verifies them

A publication carries the receipt of its registry, and `src/audit/receipt-verify.ts` hands it to the
native binding. A rejection by the binding is not always the fault of the registry: the body it served
may not parse, and the context id may be one that the control plane stored and the protocol cannot
parse. The binding does not say which by a code, only by how its message starts, and whatever is not
recognised counts as dishonesty.
-/

namespace AcdpControlPlane

/-! ## Events -/

/-- An event of a publication, with the columns the audits of its receipt read. -/
structure PublishEvent where
  id : String
  tenantId : String
  runId : Option String
  ctxId : Option String
  lineageId : Option String
  agentId : String
  registryAuthority : String
  keyFingerprint : Option String
  rawPayload : List (String × Json)

def PublishEvent.receipt (ev : PublishEvent) : Option Json :=
  (Json.get ev.rawPayload "registry_receipt").filter fun v => Json.isObjectLike (some v)

/-! ## The binding -/

/-- The binding. A function that verifies throws on failure; one that may be missing is an option. -/
structure ReceiptSdk where
  supportsReceipts : Bool
  verifyContentHash : String → String → Except NativeError Unit
  explainHashMismatch : String → String → Option String
  verifyBodyOffline : Option (String → Except NativeError Unit)
  fingerprintEd25519B64 : String → Except JsError String
  verifyReceipt : String → String → String → String → String → String → Except NativeError Unit
  stripFragment : String → String
  classifyUnderRevocation : Option (Json → String → Option String → Except JsError Json)

/-! ## Failures -/

inductive ReceiptFailureKind where
  | malformed_body
  | ctx_id_rejected
  | receipt_dishonest
deriving DecidableEq, Repr

def MALFORMED_BODY_PREFIX : String := "invalid body JSON: "

def CTX_ID_REJECTED_PREFIX : String := "invalid expectedCtxId: "

def classifyReceiptFailure (message : String) : ReceiptFailureKind :=
  if startsWith message MALFORMED_BODY_PREFIX then .malformed_body
  else if startsWith message CTX_ID_REJECTED_PREFIX then .ctx_id_rejected
  else .receipt_dishonest

section Wrappers

variable (sdk : ReceiptSdk)

/-- Recompute the hash of a body: a mismatch comes with its reason. -/
def verifyContentHash (bodyJson expectedHash : String) : Except String Unit :=
  match sdk.verifyContentHash bodyJson expectedHash with
  | .ok () => .ok ()
  | .error err => .error (errMsg err)

/-- Verify the signature of a `did:key` body against the key in its agent id. -/
def verifyBodyOffline (bodyJson : String) : Except String Unit :=
  match sdk.verifyBodyOffline with
  | none => .error "installed acdp SDK has no verifyBodyOffline (need > 0.3.0)"
  | some verify =>
    match verify bodyJson with
    | .ok () => .ok ()
    | .error err => .error (errMsg err)

/-- Verify a receipt. The kind of a failure is read off the message of the binding alone. -/
def verifyReceipt (receiptJson bodyJson registryPublicKeyB64 expectedCtxId recomputedBodyHash
    producerKeyFingerprint : String) : Except (ReceiptFailureKind × String) Unit :=
  match sdk.verifyReceipt receiptJson bodyJson registryPublicKeyB64 expectedCtxId
    recomputedBodyHash producerKeyFingerprint with
  | .ok () => .ok ()
  | .error err => .error (classifyReceiptFailure err.message, errMsg err)

end Wrappers

/-! ## Context ids -/

def isLowerAlnum (c : Char) : Bool := c.isLower || c.isDigit

def isLowerHex (c : Char) : Bool := c.isDigit || ('a' ≤ c && c ≤ 'f')

/-- A label of letters, digits and inner hyphens. -/
def isDnsLabel (label : List Char) : Bool :=
  label.all (fun c => isLowerAlnum c || c == '-') && label.head?.any isLowerAlnum &&
    label.getLast?.any isLowerAlnum

def isUuidV4 (uuid : List Char) : Bool :=
  match uuid.splitOn '-' with
  | [a, b, c, d, e] =>
    [a, b, c, d, e].all (·.all isLowerHex) &&
      [a, b, c, d, e].map List.length == [8, 4, 4, 4, 12] && c.head? == some '4' &&
      d.head?.any "89ab".toList.contains
  | _ => false

/-- The grammar of context ids, up to the length of a label: `acdp://`, an authority of labels, a
slash and a UUID. -/
def isCanonicalCtxId (ctxId : String) : Bool :=
  startsWith ctxId "acdp://" &&
    match (ctxId.toList.drop 7).splitOn '/' with
    | [authority, uuid] => (authority.splitOn '.').all isDnsLabel && isUuidV4 uuid
    | _ => false

example : isCanonicalCtxId "acdp://r.example/0b7d9a3e-1c2f-4a5b-8c6d-7e8f9a0b1c2d" = true := by
  decide

example : isCanonicalCtxId "acdp://r.example:8443/0b7d9a3e-1c2f-4a5b-8c6d-7e8f9a0b1c2d" = false := by
  decide

end AcdpControlPlane
