import AcdpControlPlane.Common.DidAuthority
import AcdpControlPlane.Common.Federation

/-!
# The lineage walk

A revocation belongs to a lineage of contexts, and what it says is folded over the whole lineage.
`walkRevocationLineage` of `src/audit/revocation-lineage.ts` fetches a lineage from a registry and
keeps the members that verify. The response is checked as a whole before any member is verified;
one member that cannot be verified now ends the walk, while members that fail for good are dropped.
-/

namespace AcdpControlPlane

/-! ## Revocations -/

def REVOCATION_CONTEXT_TYPE : String := "key-revocation"

def REVOCATION_CONTEXT_TYPE_INTERIM : String := "acdp:key-revocation"

def REVOCATION_CONTEXT_TYPES : List String :=
  [REVOCATION_CONTEXT_TYPE, REVOCATION_CONTEXT_TYPE_INTERIM]

def isRevocationContextType (contextType : String) : Bool :=
  REVOCATION_CONTEXT_TYPES.contains contextType

inductive TrustClass where
  | producer_signed
  | registry_attested
deriving DecidableEq, Repr

structure ParsedRevocation where
  revokedKeyFingerprint : String
  compromisedSince : String
  reason : Option String
  revokedKeyId : Option String
  revokedKeyController : String
  publisher : String
  trustClass : TrustClass
deriving DecidableEq, Repr

/-- Why a body is not verified: for good, for now, or for lack of a capability. -/
inductive UnverifiedStatus where
  | invalid
  | unavailable
  | unsupported
deriving DecidableEq, Repr

/-- What verifying a body comes to. Only a verified one has a revocation and a body; the trust class
of the others is unknown unless it was read. -/
inductive Outcome where
  | verified (revocation : ParsedRevocation) (body : Json)
  | unverified (status : UnverifiedStatus) (trustClass : Option TrustClass) (reason : String)

namespace Outcome

def invalid (reason : String) : Outcome := unverified .invalid none reason

def unavailable (reason : String) : Outcome := unverified .unavailable none reason

/-- The outcome is a verified one, of which `p` holds. -/
def verifiedWith (p : ParsedRevocation → Json → Bool) : Outcome → Bool
  | verified revocation body => p revocation body
  | unverified _ _ _ => false

theorem exists_of_verifiedWith {p : ParsedRevocation → Json → Bool} {outcome : Outcome}
    (h : outcome.verifiedWith p = true) :
    ∃ revocation body, outcome = verified revocation body ∧ p revocation body = true := by
  cases outcome with
  | verified revocation body => exact ⟨revocation, body, rfl, h⟩
  | unverified => cases h

def unsupported (reason : String) : Outcome := unverified .unsupported none reason

end Outcome

/-! ## Failures -/

inductive LineageFailureClass where
  | transient
  | permanent
  | hard
deriving DecidableEq, Repr

inductive LineageFailure where
  | status (code : ℕ)
  | fetch (code : FederationFetchCode)
  | resolution (code : DidResolutionCode)

/-- Transient is "could not ask", permanent "asked and was denied", and hard "would have to truncate
to keep going". -/
def classifyLineageFailure : LineageFailure → LineageFailureClass
  | .status code =>
    if code = 429 ∨ code = 408 ∨ (500 ≤ code ∧ code ≤ 599) then .transient else .permanent
  | .fetch .FETCH => .transient
  | .fetch .BODY_TOO_LARGE => .hard
  | .fetch .SSRF => .permanent
  | .fetch .REDIRECT => .permanent
  | .resolution .FETCH => .transient
  | .resolution .STATUS => .transient
  | .resolution .BODY_TOO_LARGE => .permanent
  | .resolution .CONTENT_TYPE => .permanent
  | .resolution .URL => .permanent
  | .resolution .SSRF => .permanent
  | .resolution .PARSE => .permanent
  | .resolution .PICK => .permanent

/-! ## The walk -/

structure LineageMember where
  ctxId : String
  contextType : String
  originAuthority : Option String
  revocation : ParsedRevocation
deriving DecidableEq, Repr

structure LineageMemberVerdictCounts where
  verified : ℕ
  invalid : ℕ
  unavailable : ℕ
  unsupported : ℕ
deriving DecidableEq, Repr

namespace LineageMemberVerdictCounts

def zero : LineageMemberVerdictCounts := ⟨0, 0, 0, 0⟩

def add (counts : LineageMemberVerdictCounts) (outcome : Outcome) : LineageMemberVerdictCounts :=
  match outcome with
  | .verified _ _ => { counts with verified := counts.verified + 1 }
  | .unverified .invalid _ _ => { counts with invalid := counts.invalid + 1 }
  | .unverified .unavailable _ _ => { counts with unavailable := counts.unavailable + 1 }
  | .unverified .unsupported _ _ => { counts with unsupported := counts.unsupported + 1 }

end LineageMemberVerdictCounts

/-- What a failed walk says of itself. -/
inductive LineageFailureKind where
  | empty
  | missing_named_ctx
  | failure (cls : LineageFailureClass)
deriving DecidableEq, Repr

inductive LineageWalkOutcome where
  | ok (members : List LineageMember) (memberVerdictCounts : LineageMemberVerdictCounts)
  | failed (kind : LineageFailureKind) (reason : String)
      (memberVerdictCounts : LineageMemberVerdictCounts)
deriving DecidableEq, Repr

/-- The lineage a walk is for, where it is asked for, and the context that named it. -/
structure LineageWalkParams where
  lineageId : String
  registryAuthority : String
  baseUrl : String
  tenantId : String
  expectCtxId : String
deriving DecidableEq, Repr

/-- The verifier of a member: the serving authority, the tenant, the text of the body, the body. -/
abbrev VerifyMemberBody : Type := String → String → String → Json → Except JsError Outcome

def rawMember (item : Json) : Option (Json × Option String) :=
  match item.member "body" with
  | some body =>
    if Json.isObjectLike (some body) then some (body, Json.strOf (body.member "ctx_id")) else none
  | none => none

/-- The type and the context id of a member that takes part in the fold. An empty text counts as
none. -/
def foldedMember (member : Json × Option String) : Option (String × String) :=
  match Json.strOf (member.1.member "type"), member.2 with
  | some contextType, some ctxId =>
    if isRevocationContextType contextType ∧ ctxId ≠ "" then some (contextType, ctxId) else none
  | _, _ => none

section Walk

variable (verifyMemberBody : VerifyMemberBody) (params : LineageWalkParams)

def walkMembers : List (Json × Option String) → List LineageMember → LineageMemberVerdictCounts →
    Except JsError LineageWalkOutcome
  | [], members, counts => .ok (.ok members counts)
  | member :: rest, members, counts =>
    match foldedMember member with
    | none => walkMembers rest members counts
    | some (contextType, ctxId) =>
      match verifyMemberBody params.registryAuthority params.tenantId member.1.stringify
          member.1 with
      | .error err => .error err
      | .ok outcome =>
        let counts := counts.add outcome
        match outcome with
        | .unverified .unavailable _ reason =>
          .ok (.failed (.failure .transient) ("lineage '" ++ params.lineageId ++ "' member '" ++
            ctxId ++ "' unverifiable this pass: " ++ reason) counts)
        | .unverified .invalid _ _ => walkMembers rest members counts
        | .unverified .unsupported _ _ => walkMembers rest members counts
        | .verified revocation _ =>
          walkMembers rest (members ++ [⟨ctxId, contextType,
            Json.strOf (member.1.member "origin_registry"), revocation⟩]) counts

def walkRevocationLineage (get : String → Except FetchError FederationResponse) :
    Except JsError LineageWalkOutcome :=
  match get (trimSlash params.baseUrl ++ "/lineages/" ++ encodeURIComponent params.lineageId) with
  | .error ⟨some code, message⟩ =>
    .ok (.failed (.failure (classifyLineageFailure (.fetch code)))
      ("lineage fetch failed (" ++ code.text ++ "): " ++ message) .zero)
  | .error ⟨none, message⟩ =>
    .ok (.failed (.failure .transient) ("lineage fetch failed: " ++ message) .zero)
  | .ok resp =>
    if !resp.isSuccess then
      .ok (.failed (.failure (classifyLineageFailure (.status resp.status)))
        ("lineage fetch returned HTTP " ++ toString resp.status) .zero)
    else
      match resp.json with
      | .error err =>
        .ok (.failed (.failure .permanent) ("lineage response is not valid JSON: " ++ err.message)
          .zero)
      | .ok (.arr raw) =>
        if raw.length = 0 then
          .ok (.failed .empty ("lineage '" ++ params.lineageId ++ "' returned no members") .zero)
        else
          let rawMembers := raw.filterMap rawMember
          -- before verification, so that a corrupted member still counts as named
          if rawMembers.any (·.2 = some params.expectCtxId) then
            walkMembers verifyMemberBody params rawMembers [] .zero
          else
            .ok (.failed .missing_named_ctx ("lineage '" ++ params.lineageId ++
              "' does not contain the naming ctx_id '" ++ params.expectCtxId ++ "'") .zero)
      | .ok _ =>
        .ok (.failed (.failure .permanent) "lineage response is not a JSON array" .zero)

end Walk

end AcdpControlPlane
