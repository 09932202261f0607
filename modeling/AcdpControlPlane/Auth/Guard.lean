import AcdpControlPlane.Auth.Jwt
import AcdpControlPlane.Common.Separated

/-!
# The tenant of a request

`canActivate` of `src/auth/auth.guard.ts` authenticates a request and pins its tenant. There are three
ways in: a JWT, whose claims are verified by the cross-issuer validator; an API key, which
`TENANT_API_KEYS` may bind to a tenant (`src/tenant/tenant-context.ts`); and any other token, as long as
no API key is configured at all. The header `X-Tenant-Id` can be sent with each of them.
-/

namespace AcdpControlPlane

open Throwing

/-! ## API keys and their tenants -/

structure TenantApiKey where
  tenantId : String
  apiKey : String
deriving DecidableEq, Repr

/-- One entry. A key without a tenant is bound to `default`. -/
def parseTenantApiKey (entry : String) : Except JsError TenantApiKey :=
  match entry.toList.dropWhile (· ≠ ':') with
  | [] => .ok ⟨DEFAULT_TENANT_ID, entry⟩
  | _ :: rest =>
    let tenantId := jsTrim (String.ofList (entry.toList.takeWhile (· ≠ ':')))
    let apiKey := jsTrim (String.ofList rest)
    if tenantId = "" ∨ apiKey = "" then
      .error ⟨"TENANT_API_KEYS entry '" ++ entry ++ "' has an empty side"⟩
    else .ok ⟨tenantId, apiKey⟩

def parseTenantApiKeys (raw : String) : Except JsError (List TenantApiKey) :=
  (((Separated.split raw ',').map jsTrim).filter (· ≠ "")).mapM parseTenantApiKey

/-- The loop over the entries, with the map so far. A key of two tenants is refused. -/
def buildTenantLookup : List TenantApiKey → (String → Option String) →
    Except JsError (String → Option String)
  | [], out => .ok out
  | e :: entries, out =>
    match truthy (out e.apiKey) with
    | some existing =>
      if existing ≠ e.tenantId then
        .error ⟨"TENANT_API_KEYS: API key assigned to multiple tenants ('" ++ existing ++ "' and '" ++
          e.tenantId ++ "')"⟩
      else buildTenantLookup entries (Function.update out e.apiKey (some e.tenantId))
    | none => buildTenantLookup entries (Function.update out e.apiKey (some e.tenantId))

/-- The tenant of a key. The map is built once and kept, which changes nothing. -/
def tenantFor (tenantApiKeysRaw apiKey : String) : Except JsError String := do
  let entries ← parseTenantApiKeys tenantApiKeysRaw
  let lookup ← buildTenantLookup entries fun _ => none
  return (lookup apiKey).getD DEFAULT_TENANT_ID

/-! ## Requests -/

/-- A header that was sent once, or more often. -/
inductive HeaderValue where
  | text (value : String)
  | list (values : List String)
deriving DecidableEq, Repr

structure GuardedRequest where
  authorization : Option String
  xTenantId : Option HeaderValue
  method : Option String
  path : Option String
deriving DecidableEq, Repr

def readHeaderTenant : Option HeaderValue → Option String
  | some (.text v) => truthy (some (jsTrim v))
  | _ => none

inductive ActorType where
  | jwt
  | apiKey
deriving DecidableEq, Repr

structure Actor where
  tenantId : String
  actorId : Option String
  actorDid : Option String
  actorType : Option ActorType
  actorIsAdmin : Bool
  actorIssuer : Option String
  actorFederated : Bool
  actorScopes : List String
deriving DecidableEq, Repr

inductive GuardError where
  | http (e : HttpException)
  | thrown (e : JsError)
deriving DecidableEq, Repr

def GuardError.unauthorized (message : String) : GuardError := .http (unauthorizedException message)

def GuardError.forbidden (errorCode message : String) : GuardError :=
  .http (appException errorCode message 403)

def assertNotReservedTenant (tenant : Option String) (source : String) : Except GuardError Unit :=
  if tenant = some DEFAULT_TENANT_ID then
    .error (.forbidden "TENANT_RESERVED" ("'" ++ DEFAULT_TENANT_ID ++
      "' is a reserved tenant sentinel and cannot be asserted via " ++ source))
  else .ok ()

structure GuardConfig where
  authApiKeys : List String
  authAdminApiKeys : List String
  tenantApiKeysRaw : String
  requireTenant : Bool
  tenantHeaderTrust : String
deriving DecidableEq, Repr

/-! ## The checks of the tenant -/

section Checks

variable (config : GuardConfig)

def jwtTenant (claimTenant headerTenant : Option String) : Except GuardError String := do
  assertNotReservedTenant claimTenant "token claim"
  assertNotReservedTenant headerTenant "X-Tenant-Id header"
  if claimTenant.isSome ∧ headerTenant.isSome ∧ headerTenant ≠ claimTenant then
    .error (.forbidden "TENANT_MISMATCH"
      "X-Tenant-Id does not match the tenant the token was issued under")
  else if config.requireTenant ∧ claimTenant = none then
    .error (.forbidden "TENANT_REQUIRED"
      "tenant required: token carries no tenant claim (AUTH_REQUIRE_TENANT)")
  else if claimTenant = none ∧ headerTenant.isSome ∧ config.tenantHeaderTrust ≠ "any_peer" then
    .error (.forbidden "TENANT_HEADER_UNTRUSTED"
      ("X-Tenant-Id is not trusted for a token with no tenant claim (TENANT_HEADER_TRUST=none); " ++
        "use a tenant-bound token"))
  else .ok ((claimTenant.or headerTenant).getD DEFAULT_TENANT_ID)

def apiKeyTenant (keyTenant : String) (headerTenant : Option String) : Except GuardError String := do
  assertNotReservedTenant headerTenant "X-Tenant-Id header"
  if keyTenant ≠ DEFAULT_TENANT_ID ∧ headerTenant.isSome ∧ headerTenant ≠ some keyTenant then
    .error (.forbidden "TENANT_MISMATCH"
      "X-Tenant-Id does not match the tenant this API key is bound to")
  else if config.requireTenant ∧ keyTenant = DEFAULT_TENANT_ID then
    .error (.forbidden "TENANT_REQUIRED"
      "tenant required: API key is not bound to a tenant (AUTH_REQUIRE_TENANT)")
  else .ok keyTenant

variable {config} {claimTenant headerTenant : Option String} {keyTenant tenantId : String}

theorem assertNotReservedTenant_eq_ok {tenant : Option String} {source : String} {u : Unit} :
    assertNotReservedTenant tenant source = .ok u ↔ tenant ≠ some DEFAULT_TENANT_ID := by
  unfold assertNotReservedTenant
  rw [ite_error_eq_ok]
  exact and_iff_left rfl

theorem jwtTenant_eq_ok (h : jwtTenant config claimTenant headerTenant = .ok tenantId) :
    claimTenant ≠ some DEFAULT_TENANT_ID ∧ headerTenant ≠ some DEFAULT_TENANT_ID ∧
      (config.requireTenant = true → claimTenant ≠ none) ∧
      (config.tenantHeaderTrust ≠ "any_peer" → claimTenant = none → headerTenant = none) ∧
      tenantId = (claimTenant.or headerTenant).getD DEFAULT_TENANT_ID := by
  obtain ⟨_, hc, h⟩ := bind_eq_ok.mp h
  obtain ⟨_, hh, h⟩ := bind_eq_ok.mp h
  simp only [ite_error_eq_ok] at h
  obtain ⟨-, hre, hu, h⟩ := h
  refine ⟨assertNotReservedTenant_eq_ok.mp hc, assertNotReservedTenant_eq_ok.mp hh, ?_, ?_,
    (Except.ok.inj h).symm⟩
  · exact fun hr hn => hre ⟨hr, hn⟩
  · intro ht hn
    by_contra hs
    exact hu ⟨hn, Option.isSome_iff_ne_none.mpr hs, ht⟩

theorem apiKeyTenant_eq_ok (h : apiKeyTenant config keyTenant headerTenant = .ok tenantId) :
    headerTenant ≠ some DEFAULT_TENANT_ID ∧
      (config.requireTenant = true → keyTenant ≠ DEFAULT_TENANT_ID) ∧ tenantId = keyTenant := by
  obtain ⟨_, hh, h⟩ := bind_eq_ok.mp h
  simp only [ite_error_eq_ok] at h
  obtain ⟨-, hre, h⟩ := h
  refine ⟨assertNotReservedTenant_eq_ok.mp hh, ?_, (Except.ok.inj h).symm⟩
  exact fun hr hd => hre ⟨hr, hd⟩

end Checks

/-! ## The guard -/

def bearerToken (request : GuardedRequest) : Except GuardError String :=
  match truthy request.authorization with
  | none => .error (.unauthorized "Missing Authorization header")
  | some authHeader =>
    let token := if startsWith authHeader "Bearer " then String.ofList (authHeader.toList.drop 7)
      else authHeader
    if token = "" then .error (.unauthorized "Empty authorization token") else .ok token

/-- Three segments between dots. -/
def looksLikeJwt (token : String) : Bool := (Separated.split token '.').length = 3

/-- The methods that a read-only issuer may use, and the introspection of tokens. -/
def isSafeForReadOnlyIssuer (request : GuardedRequest) : Bool :=
  let method := (request.method.getD "").toUpper
  let path := String.ofList
    (((request.path.getD "").toLower.toList.reverse.dropWhile (· = '/')).reverse)
  ["GET", "HEAD", "OPTIONS"].contains method || (method = "POST" && path = "/auth/introspect")

section Guard

variable {Key K : Type} [Field K] [LinearOrder K] [FloorRing K]

def claimTenant (claims : JwtPayload K) : Option String := truthy claims.tenant

/-- The validator of JWTs, which is there if tokens are issued. -/
structure GuardVerifier (Key K : Type) [Field K] [LinearOrder K] where
  cfg : VerifierConfig String Key
  lib : JwtLib String Key K

/-- What a call of the guard meets outside: the key of the token's issuer, the clock at the two checks,
and the deny-list. -/
structure GuardCall (Key K : Type) where
  signingKey : Except JsError Key
  verifiedAt : K
  now : K
  table : (persistence : Persistence) → RevocationTable K persistence

variable (config : GuardConfig) (sha256 : String → String) (verifier : Option (GuardVerifier Key K))

def constantTimeIncludes (candidates : List String) (token : String) : Bool :=
  candidates.any fun candidate => sha256 candidate = sha256 token

def activateJwt (request : GuardedRequest) (token : String) (call : GuardCall Key K) :
    Except GuardError Actor :=
  match verifier with
  | none => .error (.unauthorized "JWT presented but TOKEN_ISSUANCE_ENABLED=false")
  | some verifier =>
    match (CrossIssuerValidator.verifyWithProvenance verifier.cfg verifier.lib call.signingKey token
      call.verifiedAt call.now (call.table _)).1 with
    | .error _ => .error (.unauthorized "Invalid authorization token")
    | .ok (claims, trusted) => do
      let tenantId ← jwtTenant config (claimTenant claims) (readHeaderTenant request.xTenantId)
      if trusted.any (·.readOnly) ∧ ¬isSafeForReadOnlyIssuer request then
        .error (.forbidden "ISSUER_READ_ONLY" "tokens from this issuer are read-only")
      else
        .ok {
          tenantId
          actorId := claims.sub
          actorDid := claims.sub
          actorType := some .jwt
          actorIsAdmin := false
          actorIssuer := claims.iss
          actorFederated := trusted.isSome
          actorScopes := claims.scopes }

def activateApiKey (request : GuardedRequest) (token : String) : Except GuardError Actor :=
  if config.authApiKeys = [] then
    if config.requireTenant then
      .error (.forbidden "TENANT_REQUIRED"
        "tenant required but no AUTH_API_KEYS configured (AUTH_REQUIRE_TENANT)")
    else .ok ⟨DEFAULT_TENANT_ID, none, none, none, false, none, false, []⟩
  else if ¬constantTimeIncludes sha256 config.authApiKeys token then
    .error (.unauthorized "Invalid authorization token")
  else do
    let keyTenant ← (tenantFor config.tenantApiKeysRaw token).mapError .thrown
    let tenantId ← apiKeyTenant config keyTenant (readHeaderTenant request.xTenantId)
    return {
      tenantId
      actorId := some (String.ofList (token.toList.take 8) ++ "...")
      actorDid := none
      actorType := some .apiKey
      actorIsAdmin := constantTimeIncludes sha256 config.authAdminApiKeys token
      actorIssuer := none
      actorFederated := false
      actorScopes := [] }

def activate (request : GuardedRequest) (token : String) (call : GuardCall Key K) :
    Except GuardError Actor :=
  if looksLikeJwt token then activateJwt config verifier request token call
  else activateApiKey config sha256 request token

def AuthGuard.canActivate (isPublic : Bool) (request : GuardedRequest) (call : GuardCall Key K) :
    Except GuardError (Option Actor) :=
  if isPublic then .ok none
  else do
    let token ← bearerToken request
    let actor ← activate config sha256 verifier request token call
    return some actor

variable {config sha256 verifier} {request : GuardedRequest} {token : String} {call : GuardCall Key K}
  {actor : Actor}

theorem activateJwt_eq_ok (h : activateJwt config verifier request token call = .ok actor) :
    ∃ verified claims, verifier = some verified ∧ verified.lib.decode token = some claims ∧
      jwtTenant config (claimTenant claims) (readHeaderTenant request.xTenantId) =
        .ok actor.tenantId := by
  unfold activateJwt at h
  split at h
  · cases h
  · next verified =>
    split at h
    · cases h
    · next claims trusted hv =>
      obtain ⟨tenantId, ht, h⟩ := bind_eq_ok.mp h
      obtain ⟨-, h⟩ := ite_error_eq_ok.mp h
      cases h
      have hd := (CrossIssuerValidator.verifyWithProvenance_eq_ok hv).1.1
      exact ⟨verified, claims, rfl, hd, ht⟩

theorem activateApiKey_eq_ok (h : activateApiKey config sha256 request token = .ok actor) :
    (config.authApiKeys = [] ∧ config.requireTenant = false ∧ actor.tenantId = DEFAULT_TENANT_ID) ∨
      (config.authApiKeys ≠ [] ∧ ∃ keyTenant, tenantFor config.tenantApiKeysRaw token = .ok keyTenant ∧
        apiKeyTenant config keyTenant (readHeaderTenant request.xTenantId) = .ok actor.tenantId) := by
  unfold activateApiKey at h
  split at h
  · next hn =>
    obtain ⟨hr, h⟩ := ite_error_eq_ok.mp h
    cases h
    exact Or.inl ⟨hn, Bool.eq_false_of_not_eq_true hr, rfl⟩
  · next hk =>
    obtain ⟨-, h⟩ := ite_error_eq_ok.mp h
    obtain ⟨keyTenant, hke, h⟩ := bind_eq_ok.mp h
    obtain ⟨tenantId, ht, h⟩ := bind_eq_ok.mp h
    cases h
    exact Or.inr ⟨hk, keyTenant, mapError_eq_ok.mp hke, ht⟩

theorem canActivate_eq_ok
    (h : AuthGuard.canActivate config sha256 verifier false request call = .ok (some actor)) :
    ∃ token, bearerToken request = .ok token ∧
      ((looksLikeJwt token = true ∧ activateJwt config verifier request token call = .ok actor) ∨
        (looksLikeJwt token = false ∧ activateApiKey config sha256 request token = .ok actor)) := by
  obtain ⟨token, ht, h⟩ := bind_eq_ok.mp h
  obtain ⟨actor', ha, h⟩ := bind_eq_ok.mp h
  cases h
  refine ⟨token, ht, ?_⟩
  unfold activate at ha
  split at ha
  · next hj => exact Or.inl ⟨hj, ha⟩
  · next hj => exact Or.inr ⟨Bool.eq_false_of_not_eq_true hj, ha⟩

/-- The tenant of a token, where the header is not trusted: the claim of a JWT, the binding of an API
key, or none. -/
def tenantOfToken (config : GuardConfig) (verifier : Option (GuardVerifier Key K)) (token : String) :
    Option String :=
  if looksLikeJwt token then
    ((verifier.bind (·.lib.decode token)).map fun claims =>
      (claimTenant claims).getD DEFAULT_TENANT_ID)
  else if config.authApiKeys = [] then some DEFAULT_TENANT_ID
  else (tenantFor config.tenantApiKeysRaw token).toOption

theorem tenantId_of_canActivate (htr : config.tenantHeaderTrust ≠ "any_peer")
    (h : AuthGuard.canActivate config sha256 verifier false request call = .ok (some actor)) :
    ∃ token, bearerToken request = .ok token ∧
      tenantOfToken config verifier token = some actor.tenantId := by
  obtain ⟨token, hto, ⟨hj, ha⟩ | ⟨hj, ha⟩⟩ := canActivate_eq_ok h
  · refine ⟨token, hto, ?_⟩
    obtain ⟨verified, claims, rfl, hd, hte⟩ := activateJwt_eq_ok ha
    obtain ⟨-, -, -, hu, ht⟩ := jwtTenant_eq_ok hte
    -- without a claim there is no header either
    have hcl : (claimTenant claims).or (readHeaderTenant request.xTenantId) = claimTenant claims := by
      cases hc : claimTenant claims with
      | some tenant => rfl
      | none => rw [hu htr hc, Option.or_none]
    rw [ht, hcl]
    simp [tenantOfToken, hj, hd]
  · refine ⟨token, hto, ?_⟩
    rcases activateApiKey_eq_ok ha with ⟨hn, -, ht⟩ | ⟨hk, keyTenant, hke, hte⟩
    · simp [tenantOfToken, hj, hn, ht]
    · obtain ⟨-, -, ht⟩ := apiKeyTenant_eq_ok hte
      rw [ht]
      simp [tenantOfToken, hj, hk, hke, Except.toOption]

def NamesDefault (verifier : Option (GuardVerifier Key K)) (request : GuardedRequest)
    (token : String) : Prop :=
  readHeaderTenant request.xTenantId = some DEFAULT_TENANT_ID ∨
    (looksLikeJwt token = true ∧
      ∃ claims, verifier.bind (·.lib.decode token) = some claims ∧
        claims.tenant = some DEFAULT_TENANT_ID)

/-- **The tenant header carries no authority.** -/
theorem header_without_authority (config : GuardConfig) (sha256 : String → String)
    (verifier : Option (GuardVerifier Key K)) (htrust : config.tenantHeaderTrust ≠ "any_peer") :
    -- two requests that differ in the header only, each with its own surroundings
    (∀ (request : GuardedRequest) (header : Option HeaderValue) (call call' : GuardCall Key K)
        (actor actor' : Actor),
      AuthGuard.canActivate config sha256 verifier false request call = .ok (some actor) →
      AuthGuard.canActivate config sha256 verifier false { request with xTenantId := header } call' =
        .ok (some actor') →
      actor.tenantId = actor'.tenantId) ∧
    ∀ (request : GuardedRequest) (call : GuardCall Key K) (actor : Actor) (token : String),
      AuthGuard.canActivate config sha256 verifier false request call = .ok (some actor) →
      bearerToken request = .ok token →
      (looksLikeJwt token = true →
        ∃ claims, verifier.bind (·.lib.decode token) = some claims ∧
          actor.tenantId = (claimTenant claims).getD DEFAULT_TENANT_ID) ∧
      (config.authApiKeys ≠ [] ∨ looksLikeJwt token = true → ¬NamesDefault verifier request token) ∧
      (config.requireTenant = true → actor.tenantId ≠ DEFAULT_TENANT_ID) := by
  constructor
  · intro request header call call' actor actor' h h'
    obtain ⟨token, hto, ht⟩ := tenantId_of_canActivate htrust h
    obtain ⟨token', hto', ht'⟩ := tenantId_of_canActivate htrust h'
    -- the token does not depend on the header
    cases hto.symm.trans hto'
    exact Option.some.inj (ht.symm.trans ht')
  · intro request call actor token h hto
    obtain ⟨token', hto', hw⟩ := canActivate_eq_ok h
    cases hto.symm.trans hto'
    rcases hw with ⟨hj, ha⟩ | ⟨hj, ha⟩
    · obtain ⟨verified, claims, rfl, hd, ht⟩ := activateJwt_eq_ok ha
      obtain ⟨hc, hh, hre, -, hti⟩ := jwtTenant_eq_ok ht
      refine ⟨fun _ => ⟨claims, hd, ?_⟩, fun _ hn => ?_, fun hr => ?_⟩
      · obtain ⟨token', hto', ht⟩ := tenantId_of_canActivate htrust h
        cases hto.symm.trans hto'
        simpa [tenantOfToken, hj, hd, eq_comm] using ht
      · rcases hn with hn | ⟨-, claims', hd', hn⟩
        · exact hh hn
        · cases hd.symm.trans hd'
          exact hc (truthy_eq_some_iff.mpr ⟨hn, by decide⟩)
      · -- the claim is there, and it is not the reserved one
        obtain ⟨tenant, hs⟩ := Option.ne_none_iff_exists'.mp (hre hr)
        rw [hti, hs]
        exact fun hde => hc (hs.trans (congrArg some hde))
    · refine ⟨fun h => absurd (hj.symm.trans h) (by decide), ?_, ?_⟩
      · rintro (hk | h) hn
        · rcases activateApiKey_eq_ok ha with ⟨hno, -, -⟩ | ⟨-, keyTenant, -, ht⟩
          · exact hk hno
          · rcases hn with hn | ⟨h, -⟩
            · exact (apiKeyTenant_eq_ok ht).1 hn
            · exact absurd (hj.symm.trans h) (by decide)
        · exact absurd (hj.symm.trans h) (by decide)
      · intro hr
        rcases activateApiKey_eq_ok ha with ⟨-, hno, -⟩ | ⟨-, keyTenant, -, ht⟩
        · exact absurd (hno.symm.trans hr) (by decide)
        · obtain ⟨-, hre, hti⟩ := apiKeyTenant_eq_ok ht
          rw [hti]
          exact hre hr

end Guard

/-! ## A bound API key -/

/-- An API key that is bound to the tenant `acme`, in strict mode. -/
def strictConfig : GuardConfig := ⟨["k"], [], "acme:k", true, "none"⟩

def acmeRequest (header : Option HeaderValue) : GuardedRequest :=
  ⟨some "Bearer k", header, some "GET", some "/runs"⟩

def acmeCall : GuardCall Unit ℚ := ⟨.ok (), 0, 0, fun _ => .empty _⟩

def acmeActor : Actor := ⟨"acme", some "k...", none, some .apiKey, false, none, false, []⟩

/-- The header may repeat the tenant of the key, and then the request is accepted as without it. -/
theorem header_without_authority_acme :
    AuthGuard.canActivate strictConfig id none false (acmeRequest none) acmeCall =
        .ok (some acmeActor) ∧
      AuthGuard.canActivate strictConfig id none false (acmeRequest (some (.text " acme "))) acmeCall =
        .ok (some acmeActor) ∧
      acmeActor.tenantId ≠ DEFAULT_TENANT_ID := by
  have hp : AuthGuard.canActivate strictConfig id none false (acmeRequest none) acmeCall =
      .ok (some acmeActor) := rfl
  refine ⟨hp, rfl, ?_⟩
  exact ((header_without_authority strictConfig id none (by decide)).2 _ _ _ _ hp rfl).2.2 rfl

end AcdpControlPlane
