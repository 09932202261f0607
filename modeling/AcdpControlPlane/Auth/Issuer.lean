import AcdpControlPlane.Auth.Challenge
import AcdpControlPlane.Auth.Ledger
import AcdpControlPlane.Common.HttpError

/-!
# The token issuer

The checks of `issueToken` in `src/auth/token-issuer.service.ts`, in their order. A rejection is an
entry of the ledger and a thrown exception. The checks between two awaits are one function:
`checkRequest` up to the lookup of the key, `checkKey` and `mintJwt` after it.
-/

namespace AcdpControlPlane

structure TokenRequest where
  agentDid : String
  keyId : String
  nonce : String
  expiresAt : Int
  algorithm : String
  signature : String
deriving DecidableEq, Repr

structure IssueTokenContext where
  signerIp : Option String
deriving DecidableEq, Repr

structure IssuerConfig where
  jwtAuthority : String
  jwtAudience : String
  jwtTtlSeconds : Int
  challengeTtlSeconds : Int
  agentTenantLookup : String → Option String
  authPersistence : Persistence
  didWebResolver : Bool

structure AcdpBearerClaims where
  iss : String
  sub : String
  aud : String
  jti : String
  iat : Int
  nbf : Int
  exp : Int
  registry : String
  keyId : String
  tenant : Option String
deriving DecidableEq, Repr

structure IssuedToken where
  claims : AcdpBearerClaims
  tokenType : String
  expiresAt : Int
deriving DecidableEq, Repr

structure Rejection where
  entry : IssuanceLedgerEntry
  error : HttpException
deriving DecidableEq, Repr

section Checks

variable (cfg : IssuerConfig) (req : TokenRequest) (ctx : IssueTokenContext)

def reject (decision : IssuanceDecision) (decisionDetail : Option String) (error : HttpException) :
    Rejection where
  entry :=
    { jti := none, sub := some req.agentDid, iss := some cfg.jwtAuthority, iat := none, exp := none
      signerIp := ctx.signerIp, decision, decisionDetail }
  error

def checkAlgorithm : Except Rejection SignatureAlgorithm :=
  match SignatureAlgorithm.ofText? req.algorithm with
  | some algorithm => .ok algorithm
  | none =>
    .error (reject cfg req ctx .rejectAlg (some ("algorithm=" ++ req.algorithm))
      (badRequestException ("Unsupported signature algorithm: '" ++ req.algorithm ++
        "' (supported: ed25519, ecdsa-p256)")))

def nonceRejection : Rejection :=
  reject cfg req ctx .rejectNonce (some "unknown, expired, or already-used")
    (unauthorizedException "Unknown, expired, or already-used nonce")

/-- The test `/[:\s%]/` on a character. -/
def breaksFragment (c : Char) : Bool := c = ':' || isJsSpace c || c = '%'

/-- The full DID URL of the key id, which has to belong to the agent. -/
def bindKeyId : Except Rejection String :=
  let rejectKeyId (decision : IssuanceDecision) (message : String) : Except Rejection String :=
    .error (reject cfg req ctx decision
      (some ("agent=" ++ req.agentDid ++ " key_id=" ++ req.keyId)) (unauthorizedException message))
  if !includesChar req.keyId '#' then
    if req.keyId = "" || req.keyId.toList.any breaksFragment then
      rejectKeyId .rejectKeyIdMalformed "key_id is malformed: expected a fragment"
    else .ok (req.agentDid ++ "#" ++ req.keyId)
  else
    let didPortion := String.ofList (req.keyId.toList.takeWhile (· ≠ '#'))
    let fragment := String.ofList ((req.keyId.toList.dropWhile (· ≠ '#')).drop 1)
    if didPortion = "" || fragment = "" || includesChar fragment '#' then
      rejectKeyId .rejectKeyIdMalformed "key_id is malformed: invalid fragment"
    else if didPortion ≠ req.agentDid then
      rejectKeyId .rejectKeyIdMismatch "key_id does not belong to agent_id"
    else .ok req.keyId

/-- The checks between the consumed challenge and the lookup of the key: the DID URL to look up. -/
def checkRequest (record : ChallengeRecord) : Except Rejection String :=
  if record.agentDid ≠ req.agentDid then
    .error (reject cfg req ctx .rejectAgentMismatch
      (some ("challenge=" ++ record.agentDid ++ " got=" ++ req.agentDid))
      (unauthorizedException ("agent_id does not match challenge owner: challenge=" ++
        record.agentDid ++ " got=" ++ req.agentDid)))
  else if record.expiresAt ≠ req.expiresAt then
    .error (reject cfg req ctx .rejectExpiresMismatch
      (some ("challenge=" ++ toString record.expiresAt ++ " got=" ++ toString req.expiresAt))
      (unauthorizedException ("expires_at does not match challenge: challenge=" ++
        toString record.expiresAt ++ " got=" ++ toString req.expiresAt)))
  else bindKeyId cfg req ctx

def isDidWeb (did : String) : Bool := startsWith did "did:web:"

def unpinnedRejection : Rejection :=
  reject cfg req ctx .rejectUnpinned none
    (unauthorizedException ("agent_did '" ++ req.agentDid ++
      "' has no pinned public key on this control plane"))

variable {Document : Type} (sdk : AuthSdk Document)

/-- The key of a `did:web` agent, in the shape of a pinned one. -/
def resolveDidWebKey (env : ResolverEnv Document) (algorithm : SignatureAlgorithm)
    (keyUrl : String) : Except Rejection PinnedKey :=
  match resolveKey sdk env keyUrl algorithm with
  | .ok resolved =>
    .ok { agentDid := req.agentDid, algorithm := resolved.algorithm, rawB64 := resolved.publicKeyB64
          validFromSec := none, validUntilSec := none }
  | .error message =>
    .error (reject cfg req ctx .rejectUnpinned (some ("did:web resolution failed: " ++ message))
      (unauthorizedException ("agent_did '" ++ req.agentDid ++
        "' could not be resolved via did:web")))

def checkKey (record : ChallengeRecord) (key : PinnedKey) : Except Rejection Unit :=
  if req.algorithm ≠ key.algorithm.text then
    .error (reject cfg req ctx .rejectAlg
      (some ("request=" ++ req.algorithm ++ " pinned=" ++ key.algorithm.text))
      (unauthorizedException ("signature.algorithm '" ++ req.algorithm ++
        "' does not match pinned algorithm '" ++ key.algorithm.text ++ "' for " ++ req.agentDid)))
  else if !verifySignatureB64 sdk key.algorithm key.rawB64 record.signingInput req.signature then
    .error (reject cfg req ctx .rejectSignature none
      ⟨401, some "INVALID_SIGNATURE", "Signature verification failed"⟩)
  else .ok ()

def tenantForAgent (lookup : String → Option String) (agentDid : String) : String :=
  (lookup agentDid).getD DEFAULT_TENANT_ID

def mintJwt (agentDid keyId jti : String) (now : Int) : IssuedToken :=
  let exp := nowSeconds now + cfg.jwtTtlSeconds
  let tenant := tenantForAgent cfg.agentTenantLookup agentDid
  { claims :=
      { iss := cfg.jwtAuthority, sub := agentDid, aud := cfg.jwtAudience, jti, iat := nowSeconds now
        nbf := nowSeconds now, exp, registry := cfg.jwtAuthority, keyId
        tenant := if tenant ≠ DEFAULT_TENANT_ID then some tenant else none }
    tokenType := "Bearer"
    expiresAt := exp }

def mintEntry (token : IssuedToken) : IssuanceLedgerEntry where
  jti := some token.claims.jti
  sub := some token.claims.sub
  iss := some token.claims.iss
  iat := some token.claims.iat
  exp := some token.claims.exp
  signerIp := ctx.signerIp
  decision := .mint
  decisionDetail := some ("key_id=" ++ req.keyId)

end Checks

/-! ## What passing a check means -/

/-- A key id of an agent: a bare fragment, or a DID URL with a fragment whose DID is the agent's. -/
def KeyIdBound (agentDid keyId : String) : Prop :=
  (keyId ≠ "" ∧ ∀ c ∈ keyId.toList, c ≠ '#' ∧ c ≠ ':' ∧ c ≠ '%' ∧ isJsSpace c = false) ∨
    ∃ fragment, fragment ≠ "" ∧ '#' ∉ fragment.toList ∧ '#' ∉ agentDid.toList ∧
      keyId = agentDid ++ "#" ++ fragment

section Passing

variable {cfg : IssuerConfig} {req : TokenRequest} {ctx : IssueTokenContext} {Document : Type}
  {sdk : AuthSdk Document} {env : ResolverEnv Document} {record : ChallengeRecord} {key : PinnedKey}
  {algorithm : SignatureAlgorithm} {keyUrl : String}

theorem stripFragment_append_hash (did fragment : String) :
    stripFragment (did ++ "#" ++ fragment) = stripFragment did := by
  have hh : ("#" : String).toList = ['#'] := rfl
  unfold stripFragment
  rw [String.toList_append, String.toList_append, hh, List.append_assoc, List.takeWhile_append]
  split
  · next ha =>
    rw [(List.takeWhile_prefix _).eq_of_length ha]
    simp
  · rfl

theorem eq_append_hash {text : String} (hh : '#' ∈ text.toList) :
    text = String.ofList (text.toList.takeWhile (· ≠ '#')) ++ "#" ++
      String.ofList ((text.toList.dropWhile (· ≠ '#')).drop 1) := by
  have hch : ∀ cs : List Char, '#' ∈ cs →
      cs = cs.takeWhile (· ≠ '#') ++ '#' :: (cs.dropWhile (· ≠ '#')).drop 1 := by
    intro cs hcs
    induction cs with
    | nil => cases hcs
    | cons c cs ih =>
      by_cases hc : c = '#'
      · subst hc
        simp
      · have hr := ih ((List.mem_cons.mp hcs).resolve_left (Ne.symm hc))
        rw [List.takeWhile_cons_of_pos (by simpa using hc),
          List.dropWhile_cons_of_pos (by simpa using hc), List.cons_append, ← hr]
  rw [← String.toList_inj]
  simp only [String.toList_append, String.toList_ofList, List.append_assoc]
  exact hch _ hh

theorem keyIdBound_of_bindKeyId (h : bindKeyId cfg req ctx = .ok keyUrl) :
    KeyIdBound req.agentDid req.keyId ∧ stripFragment keyUrl = stripFragment req.agentDid := by
  unfold bindKeyId at h
  split at h
  · next hba =>
    -- a bare fragment: the key id is appended to the DID
    obtain ⟨hf, h⟩ := Throwing.ite_error_eq_ok.mp h
    cases h
    refine ⟨Or.inl ?_, stripFragment_append_hash _ _⟩
    simp only [includesChar, breaksFragment, Bool.not_eq_eq_eq_not, Bool.not_true,
      List.contains_eq_mem, decide_eq_false_iff_not, Bool.or_eq_true, decide_eq_true_eq,
      List.any_eq_true, not_or, not_exists, not_and, Bool.not_eq_true] at hba hf
    refine ⟨hf.1, ?_⟩
    intro c hc
    refine ⟨fun heq => hba (heq ▸ hc), ?_⟩
    have hb := hf.2 c hc
    exact ⟨hb.1.1, hb.2, hb.1.2⟩
  · next hh =>
    obtain ⟨hf, h⟩ := Throwing.ite_error_eq_ok.mp h
    -- a full key id, which has to begin with the DID
    obtain ⟨hd, h⟩ := Throwing.ite_error_eq_ok.mp h
    cases h
    simp only [Bool.or_eq_true, decide_eq_true_eq, not_or] at hf
    have hm : '#' ∈ req.keyId.toList := by simpa [includesChar] using hh
    have heq := eq_append_hash hm
    rw [not_not.mp hd] at heq
    have ha : '#' ∉ req.agentDid.toList := by
      rw [← not_not.mp hd, String.toList_ofList]
      intro hi
      simpa using List.mem_takeWhile_imp hi
    refine ⟨Or.inr ⟨_, hf.1.2, ?_, ha, heq⟩, ?_⟩
    · intro hi
      exact hf.2 (List.contains_iff_mem.mpr hi)
    · conv_lhs => rw [heq]
      exact stripFragment_append_hash _ _

theorem checkRequest_eq_ok (h : checkRequest cfg req ctx record = .ok keyUrl) :
    record.agentDid = req.agentDid ∧ record.expiresAt = req.expiresAt ∧
      bindKeyId cfg req ctx = .ok keyUrl := by
  obtain ⟨ha, h⟩ := Throwing.ite_error_eq_ok.mp h
  obtain ⟨hex, h⟩ := Throwing.ite_error_eq_ok.mp h
  exact ⟨not_not.mp ha, not_not.mp hex, h⟩

theorem checkKey_eq_ok (h : checkKey cfg req ctx sdk record key = .ok ()) :
    req.algorithm = key.algorithm.text ∧
      verifySignatureB64 sdk key.algorithm key.rawB64 record.signingInput req.signature = true := by
  obtain ⟨ha, h⟩ := Throwing.ite_error_eq_ok.mp h
  obtain ⟨hs, -⟩ := Throwing.ite_error_eq_ok.mp h
  exact ⟨not_not.mp ha, by simpa using hs⟩

theorem resolveDidWebKey_eq_ok (h : resolveDidWebKey cfg req ctx sdk env algorithm keyUrl = .ok key) :
    ∃ url doc resolved, env.resolveDocument (stripFragment keyUrl) url = .ok doc ∧
      sdk.keyForAlgorithm doc keyUrl algorithm = .ok resolved ∧
      key.rawB64 = resolved.publicKeyB64 ∧ key.algorithm = resolved.algorithm := by
  unfold resolveDidWebKey at h
  split at h
  · next resolved hr =>
    cases h
    obtain ⟨url, doc, hd, hk⟩ := document_of_resolveKey hr
    exact ⟨url, doc, resolved, hd, hk, rfl, rfl⟩
  · cases h

end Passing

end AcdpControlPlane
