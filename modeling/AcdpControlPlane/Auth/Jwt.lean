import AcdpControlPlane.Auth.Issuer
import AcdpControlPlane.Auth.Revocations

/-!
# Verifying bearer tokens

A bearer token is verified twice: its signature and registered claims by the codec
(`src/auth/jwt-codec.ts`), and its token id against the deny-list. This is done by the issuer for its
own tokens (`verifyJwt` of `src/auth/token-issuer.service.ts`) and by the cross-issuer validator for
every trusted issuer (`src/auth/cross-issuer-validator.service.ts`).
-/

namespace AcdpControlPlane

open Throwing

inductive JwtAlgorithm where
  | HS256
  | EdDSA
deriving DecidableEq, Repr

def JwtAlgorithm.text : JwtAlgorithm → String
  | HS256 => "HS256"
  | EdDSA => "EdDSA"

/-- The claim `aud`, if it is a text or an array. -/
inductive Audience where
  | one (aud : String)
  | many (auds : List String)
deriving DecidableEq, Repr

/-- The claims of a token that are read. A time is a finite number of seconds. -/
structure JwtPayload (K : Type) where
  iss : Option String
  sub : Option String
  jti : String
  exp : Option K
  nbf : Option K
  aud : Option Audience
  scopes : List String
  tenant : Option String
deriving DecidableEq, Repr

structure VerifyJwtOptions (Key K : Type) where
  algorithms : List JwtAlgorithm
  key : Key
  issuer : Option String
  audience : Option String
  clockToleranceSec : Option K
  requireExp : Option Bool

/-- What the codec uses of `jsonwebtoken`, of the SDK and of `Buffer`. -/
structure JwtLib (Token Key K : Type) [Field K] [LinearOrder K] where
  decode : Token → Option (JwtPayload K)
  decodeAlg : Token → Except JsError String
  checkEdDSA : Token → Key → Except JsError Unit
  jwtVerify : Token → JwtAlgorithm → VerifyJwtOptions Key K → Int → Except JsError (JwtPayload K)
  decode_of_jwtVerify {token : Token} {algorithm : JwtAlgorithm} {opts : VerifyJwtOptions Key K}
    {now : Int} {payload : JwtPayload K} (h : jwtVerify token algorithm opts now = .ok payload) :
    decode token = some payload
  lt_of_jwtVerify {token : Token} {algorithm : JwtAlgorithm} {opts : VerifyJwtOptions Key K}
    {now : Int} {payload : JwtPayload K} (h : jwtVerify token algorithm opts now = .ok payload) :
    ∀ exp ∈ payload.exp, (now : K) < exp + opts.clockToleranceSec.getD 0

section Codec

variable {Token Key K : Type} [Field K] [LinearOrder K] [FloorRing K]

def requireExpClaim (payload : JwtPayload K) (opts : VerifyJwtOptions Key K) :
    Except JsError Unit :=
  if opts.requireExp.getD true ∧ payload.exp = none then .error ⟨"jwt exp claim is required"⟩
  else .ok ()

def matchesAudience (aud : Option Audience) (required : String) : Bool :=
  match aud with
  | none => false
  | some (.one aud) => aud = required
  | some (.many auds) => auds.contains required

/-- The checks of `exp`, `nbf`, `iss` and `aud`. -/
def validateRegisteredClaims (payload : JwtPayload K) (opts : VerifyJwtOptions Key K) (clock : K) :
    Except JsError Unit := do
  let now : K := ⌊clock⌋
  let tol := opts.clockToleranceSec.getD 0
  requireExpClaim payload opts
  if payload.exp.any (now > · + tol) then .error ⟨"jwt expired"⟩
  else if payload.nbf.any (now < · - tol) then .error ⟨"jwt not active"⟩
  else if opts.issuer.any (payload.iss ≠ some ·) then
    .error ⟨"jwt issuer invalid. expected: " ++ opts.issuer.getD ""⟩
  else if opts.audience.any (!matchesAudience payload.aud ·) then .error ⟨"jwt audience invalid"⟩
  else .ok ()

def verifyEdDSA (lib : JwtLib Token Key K) (token : Token) (opts : VerifyJwtOptions Key K)
    (clock : K) : Except JsError (JwtPayload K) := do
  lib.checkEdDSA token opts.key
  match lib.decode token with
  | none => .error ⟨"Unexpected token in JSON"⟩
  | some payload =>
    validateRegisteredClaims payload opts clock
    return payload

def verifyJwt (lib : JwtLib Token Key K) (token : Token) (opts : VerifyJwtOptions Key K) (clock : K) :
    Except JsError (JwtPayload K) := do
  let alg ← lib.decodeAlg token
  if alg ∉ opts.algorithms.map JwtAlgorithm.text then
    .error ⟨"token alg '" ++ alg ++ "' is not in the allowed set [" ++
      String.intercalate ", " (opts.algorithms.map JwtAlgorithm.text) ++ "]"⟩
  else if alg = "EdDSA" then verifyEdDSA lib token opts clock
  else
    let payload ← lib.jwtVerify token .HS256 opts ⌊clock⌋
    requireExpClaim payload opts
    return payload

/-- The expiry of a token lets it pass, at this time and under this algorithm. -/
def Unexpired (alg : String) (exp clock : K) : Prop :=
  if alg = "EdDSA" then (⌊clock⌋ : K) ≤ exp else (⌊clock⌋ : K) < exp

theorem validateRegisteredClaims_eq_ok {payload : JwtPayload K} {opts : VerifyJwtOptions Key K}
    {clock : K} (h : validateRegisteredClaims payload opts clock = .ok ()) :
    ∀ exp ∈ payload.exp, (⌊clock⌋ : K) ≤ exp + opts.clockToleranceSec.getD 0 := by
  obtain ⟨required, -, h⟩ := bind_eq_ok.mp h
  obtain ⟨hex, -⟩ := ite_error_eq_ok.mp h
  intro exp hexp
  rw [Option.mem_def.mp hexp] at hex
  simpa using hex

theorem verifyJwt_eq_ok {lib : JwtLib Token Key K} {token : Token} {opts : VerifyJwtOptions Key K}
    {clock : K} {payload : JwtPayload K} (hs : opts.clockToleranceSec = none)
    (h : verifyJwt lib token opts clock = .ok payload) :
    lib.decode token = some payload ∧
      ∃ alg, lib.decodeAlg token = .ok alg ∧ ∀ exp ∈ payload.exp, Unexpired alg exp clock := by
  have ht : ∀ exp : K, exp + opts.clockToleranceSec.getD 0 = exp := by
    intro exp
    rw [hs]
    exact add_zero exp
  obtain ⟨alg, ha, h⟩ := bind_eq_ok.mp h
  obtain ⟨-, h⟩ := ite_error_eq_ok.mp h
  split at h
  · -- EdDSA tokens are checked by the codec itself
    next hed =>
    obtain ⟨-, -, h⟩ := bind_eq_ok.mp h
    split at h
    · cases h
    · next decoded hd =>
      obtain ⟨valid, hv, h⟩ := bind_eq_ok.mp h
      cases h
      refine ⟨hd, alg, ha, ?_⟩
      intro exp hex
      have := validateRegisteredClaims_eq_ok hv exp hex
      rw [ht] at this
      simpa [Unexpired, hed] using this
  · -- the other algorithms are left to the library
    next ho =>
    obtain ⟨decoded, hd, h⟩ := bind_eq_ok.mp h
    obtain ⟨-, -, h⟩ := bind_eq_ok.mp h
    cases h
    refine ⟨lib.decode_of_jwtVerify hd, alg, ha, ?_⟩
    intro exp hex
    have := lib.lt_of_jwtVerify hd exp hex
    rw [ht] at this
    simpa [Unexpired, ho] using this

/-! ## The two verifiers -/

structure TrustedIssuer (Key : Type) where
  iss : String
  alg : JwtAlgorithm
  secret : Key
  audience : String
  requiredScope : List String
  readOnly : Bool

structure VerifierConfig (Token Key : Type) where
  jwtAuthority : String
  jwtAudience : String
  signingAlgorithm : JwtAlgorithm
  verifyKey : Key
  trusted : String → Option (TrustedIssuer Key)
  persistence : Persistence

variable (cfg : VerifierConfig Token Key) (lib : JwtLib Token Key K)

def localOptions : VerifyJwtOptions Key K where
  algorithms := [cfg.signingAlgorithm]
  key := cfg.verifyKey
  issuer := some cfg.jwtAuthority
  audience := some cfg.jwtAudience
  clockToleranceSec := none
  requireExp := none

def trustedOptions (trusted : TrustedIssuer Key) (key : Key) : VerifyJwtOptions Key K where
  algorithms := [trusted.alg]
  key := key
  issuer := some trusted.iss
  audience := none
  clockToleranceSec := none
  requireExp := none

def revokedException (jti : String) : HttpException :=
  unauthorizedException ("token jti=" ++ jti ++ " has been revoked")

def lookupToken (claims : JwtPayload K) (now : K) (table : RevocationTable K cfg.persistence) :
    Bool × RevocationTable K cfg.persistence :=
  isRevoked (claims.iss.getD "undefined") claims.jti now table

/-- `TokenIssuer.verifyJwt`: the claims are checked at `verifiedAt`, and the deny-list at `now`. -/
def TokenIssuer.verifyJwt (token : Token) (verifiedAt now : K)
    (table : RevocationTable K cfg.persistence) :
    Except HttpException (JwtPayload K) × RevocationTable K cfg.persistence :=
  match AcdpControlPlane.verifyJwt lib token (localOptions cfg) verifiedAt with
  | .error e => (.error (unauthorizedException ("JWT verification failed: " ++ e.message)), table)
  | .ok decoded =>
    if (lookupToken cfg decoded now table).1 then
      (.error (revokedException decoded.jti), (lookupToken cfg decoded now table).2)
    else (.ok decoded, (lookupToken cfg decoded now table).2)

namespace CrossIssuerValidator

def verifyLocal (token : Token) (clock : K) : Except HttpException (JwtPayload K) :=
  (verifyJwt lib token (localOptions cfg) clock).mapError fun e =>
    unauthorizedException ("local JWT verification failed: " ++ e.message)

/-- The token of a trusted issuer. An EdDSA key comes from the issuer's JWKS. -/
def verifyTrusted (signingKey : Except JsError Key) (token : Token) (trusted : TrustedIssuer Key)
    (clock : K) : Except HttpException (JwtPayload K) := do
  let key : Except JsError Key := match trusted.alg with
    | .HS256 => .ok trusted.secret
    | .EdDSA => signingKey
  let decoded ← (key >>= fun key => verifyJwt lib token (trustedOptions trusted key) clock).mapError
    fun e => unauthorizedException ("trusted JWT verification failed: " ++ e.message)
  if trusted.audience ≠ "" ∧ !matchesAudience decoded.aud trusted.audience then
    .error (unauthorizedException ("trusted JWT iss='" ++ trusted.iss ++
      "' audience mismatch: required '" ++ trusted.audience ++ "'"))
  else
    let missing := trusted.requiredScope.filter (!decoded.scopes.contains ·)
    if missing ≠ [] then
      .error (unauthorizedException ("trusted JWT iss='" ++ trusted.iss ++
        "' missing required scope(s): " ++ String.intercalate " " missing))
    else .ok decoded

def verifyClaims (signingKey : Except JsError Key) (token : Token) (clock : K) :
    Except HttpException (JwtPayload K × Option (TrustedIssuer Key)) :=
  match lib.decode token with
  | none => .error (unauthorizedException "JWT decode failed")
  | some peek =>
    match truthy peek.iss with
    | none => .error (unauthorizedException "JWT missing iss claim")
    | some iss =>
      if iss = cfg.jwtAuthority then (verifyLocal cfg lib token clock).map fun claims => (claims, none)
      else
        match cfg.trusted iss with
        | none => .error (unauthorizedException ("JWT iss='" ++ iss ++ "' is not trusted"))
        | some trusted =>
          (verifyTrusted lib signingKey token trusted clock).map fun claims => (claims, some trusted)

/-- `verifyWithProvenance`: the claims are checked at `verifiedAt`, and the deny-list at `now`, unless
the token has an empty id. -/
def verifyWithProvenance (signingKey : Except JsError Key) (token : Token) (verifiedAt now : K)
    (table : RevocationTable K cfg.persistence) :
    Except HttpException (JwtPayload K × Option (TrustedIssuer Key)) ×
      RevocationTable K cfg.persistence :=
  match verifyClaims cfg lib signingKey token verifiedAt with
  | .error e => (.error e, table)
  | .ok (claims, trusted) =>
    if claims.jti = "" then (.ok (claims, trusted), table)
    else if (lookupToken cfg claims now table).1 then
      (.error (revokedException claims.jti), (lookupToken cfg claims now table).2)
    else (.ok (claims, trusted), (lookupToken cfg claims now table).2)

end CrossIssuerValidator

/-! ## What it means that claims are returned -/

variable {cfg : VerifierConfig Token Key} {lib : JwtLib Token Key K} {token : Token}
  {verifiedAt now : K} {table : RevocationTable K cfg.persistence} {claims : JwtPayload K}

def Passed (lib : JwtLib Token Key K) (token : Token) (clock : K) (claims : JwtPayload K) : Prop :=
  lib.decode token = some claims ∧
    ∃ alg, lib.decodeAlg token = .ok alg ∧ ∀ exp ∈ claims.exp, Unexpired alg exp clock

theorem TokenIssuer.verifyJwt_eq_ok
    (h : (TokenIssuer.verifyJwt cfg lib token verifiedAt now table).1 = .ok claims) :
    Passed lib token verifiedAt claims ∧ (lookupToken cfg claims now table).1 = false := by
  unfold TokenIssuer.verifyJwt at h
  split at h
  · cases h
  · next decoded hd =>
    split at h
    · cases h
    · next hf =>
      cases h
      exact ⟨AcdpControlPlane.verifyJwt_eq_ok rfl hd, Bool.eq_false_of_not_eq_true hf⟩

theorem TokenIssuer.verifyJwt_snd (cfg : VerifierConfig Token Key) (lib : JwtLib Token Key K)
    (token : Token) (verifiedAt now : K) (table : RevocationTable K cfg.persistence) :
    (TokenIssuer.verifyJwt cfg lib token verifiedAt now table).2 = table ∨ ∃ claims,
      (TokenIssuer.verifyJwt cfg lib token verifiedAt now table).2 =
        (lookupToken cfg claims now table).2 := by
  unfold TokenIssuer.verifyJwt
  split
  · exact Or.inl rfl
  · next decoded hd =>
    refine Or.inr ⟨decoded, ?_⟩
    split <;> rfl

namespace CrossIssuerValidator

variable {signingKey : Except JsError Key} {trusted? : Option (TrustedIssuer Key)}

theorem verifyTrusted_eq_ok {trusted : TrustedIssuer Key}
    (h : verifyTrusted lib signingKey token trusted verifiedAt = .ok claims) :
    Passed lib token verifiedAt claims := by
  obtain ⟨decoded, hd, h⟩ := bind_eq_ok.mp h
  obtain ⟨key, -, hv⟩ := bind_eq_ok.mp (mapError_eq_ok.mp hd)
  obtain ⟨-, h⟩ := ite_error_eq_ok.mp h
  obtain ⟨-, h⟩ := ite_error_eq_ok.mp h
  cases h
  exact verifyJwt_eq_ok rfl hv

theorem verifyClaims_eq_ok
    (h : verifyClaims cfg lib signingKey token verifiedAt = .ok (claims, trusted?)) :
    Passed lib token verifiedAt claims := by
  unfold verifyClaims at h
  split at h
  · cases h
  · split at h
    · cases h
    · split at h
      · -- a token of this issuer
        cases hl : verifyLocal cfg lib token verifiedAt with
        | error e =>
          rw [hl] at h
          cases h
        | ok decoded =>
          rw [hl] at h
          cases h
          exact verifyJwt_eq_ok rfl (mapError_eq_ok.mp hl)
      · split at h
        · cases h
        · next trusted ht =>
          -- a token of a trusted issuer
          cases hv : verifyTrusted lib signingKey token trusted verifiedAt with
          | error e =>
            rw [hv] at h
            cases h
          | ok decoded =>
            rw [hv] at h
            cases h
            exact verifyTrusted_eq_ok hv

theorem verifyWithProvenance_eq_ok
    (h : (verifyWithProvenance cfg lib signingKey token verifiedAt now table).1 =
      .ok (claims, trusted?)) :
    Passed lib token verifiedAt claims ∧
      (claims.jti = "" ∨ (lookupToken cfg claims now table).1 = false) := by
  unfold verifyWithProvenance at h
  split at h
  · cases h
  · next claims' trusted hv =>
    have hp := verifyClaims_eq_ok hv
    split at h
    · next hem =>
      cases h
      exact ⟨hp, Or.inl hem⟩
    · split at h
      · cases h
      · next hf =>
        cases h
        exact ⟨hp, Or.inr (Bool.eq_false_of_not_eq_true hf)⟩

theorem verifyWithProvenance_snd (cfg : VerifierConfig Token Key) (lib : JwtLib Token Key K)
    (signingKey : Except JsError Key) (token : Token) (verifiedAt now : K)
    (table : RevocationTable K cfg.persistence) :
    (verifyWithProvenance cfg lib signingKey token verifiedAt now table).2 = table ∨ ∃ claims,
      (verifyWithProvenance cfg lib signingKey token verifiedAt now table).2 =
        (lookupToken cfg claims now table).2 := by
  unfold verifyWithProvenance
  split
  · exact Or.inl rfl
  · next claims trusted hv =>
    split
    · exact Or.inl rfl
    · refine Or.inr ⟨claims, ?_⟩
      split <;> rfl

end CrossIssuerValidator

end Codec

end AcdpControlPlane
