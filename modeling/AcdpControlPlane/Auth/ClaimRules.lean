import AcdpControlPlane.Auth.Jwt

/-!
# The claim rules of the two algorithms

`verifyJwt` of `src/auth/jwt-codec.ts`, on the claims as they are in the token: any JSON object. An HS256
token is verified by `jsonwebtoken`, and an EdDSA token by the codec, which means to apply the same
rules. The claim rules of `jsonwebtoken` 9 are given here as that library has them.
-/

namespace AcdpControlPlane.JwtCodec

open Throwing

/-- The numbers of JavaScript, as far as they are added, subtracted and compared. -/
structure Arithmetic (N : Type) where
  value : JsNumber → N
  ofInt : Int → N
  add : N → N → N
  sub : N → N → N

structure TokenFormat (Token Key : Type) where
  decodeAlg : Token → Except JsError String
  checkEdDSA : Token → Key → Except JsError Unit
  checkHS256 : Token → Key → Except JsError Unit
  claims : Token → Option (List (String × Json))

section Rules

variable {N Key Token : Type} [LinearOrder N] (arith : Arithmetic N)

/-- The claim is a number, `typeof claim === 'number'`. -/
def number? (claim : Option Json) : Option N :=
  match claim with
  | some (.num n) => some (arith.value n)
  | _ => none

/-- `aud` is the required audience, or an array that has it. -/
def hasAudience (aud : Option Json) (required : String) : Bool :=
  match aud with
  | some (.arr auds) => auds.any fun aud => Json.strOf (some aud) = some required
  | aud => Json.strOf aud = some required

def tolerance (opts : VerifyJwtOptions Key N) : N := opts.clockToleranceSec.getD (arith.ofInt 0)

/-- `Math.floor(Date.now() / 1000)`. -/
def wholeSecond (clockMs : Int) : Int := clockMs / 1000

def parsedClaims (format : TokenFormat Token Key) (token : Token) :
    Except JsError (List (String × Json)) :=
  match format.claims token with
  | none => .error ⟨"Unexpected token in JSON"⟩
  | some payload => .ok payload

/-! ## The codec -/

def requireExpClaim (payload : List (String × Json)) (opts : VerifyJwtOptions Key N) :
    Except JsError Unit :=
  if opts.requireExp.getD true ∧ number? arith (Json.get payload "exp") = none then
    .error ⟨"jwt exp claim is required"⟩
  else .ok ()

/-- The checks of `exp`, `nbf`, `iss` and `aud`. -/
def validateRegisteredClaims (payload : List (String × Json)) (opts : VerifyJwtOptions Key N)
    (now : Int) : Except JsError Unit := do
  let now := arith.ofInt now
  let tol := tolerance arith opts
  requireExpClaim arith payload opts
  if (number? arith (Json.get payload "exp")).any (now > arith.add · tol) then .error ⟨"jwt expired"⟩
  else if (number? arith (Json.get payload "nbf")).any (now < arith.sub · tol) then
    .error ⟨"jwt not active"⟩
  else if opts.issuer.any (Json.strOf (Json.get payload "iss") ≠ some ·) then
    .error ⟨"jwt issuer invalid. expected: " ++ opts.issuer.getD ""⟩
  else if opts.audience.any (!hasAudience (Json.get payload "aud") ·) then
    .error ⟨"jwt audience invalid"⟩
  else .ok ()

def verifyEdDSA (format : TokenFormat Token Key) (token : Token) (opts : VerifyJwtOptions Key N)
    (clockMs : Int) : Except JsError (List (String × Json)) := do
  format.checkEdDSA token opts.key
  let payload ← parsedClaims format token
  validateRegisteredClaims arith payload opts (wholeSecond clockMs)
  return payload

/-! ## `jsonwebtoken` -/

def checkTime (claim : Option Json) (invalid failed : String) (passes : N → Bool) :
    Except JsError Unit :=
  match claim with
  | none => .ok ()
  | some (.num n) => if passes (arith.value n) then .ok () else .error ⟨failed⟩
  | some _ => .error ⟨invalid⟩

/-- The claim rules of `jwt.verify`. An option that is empty is not checked. -/
def checkClaims (payload : List (String × Json)) (opts : VerifyJwtOptions Key N) (now : Int) :
    Except JsError Unit := do
  let now := arith.ofInt now
  let tol := tolerance arith opts
  checkTime arith (Json.get payload "nbf") "invalid nbf value" "jwt not active" (· ≤ arith.add now tol)
  checkTime arith (Json.get payload "exp") "invalid exp value" "jwt expired" (now < arith.add · tol)
  if (truthy opts.audience).any (!hasAudience (Json.get payload "aud") ·) then
    .error ⟨"jwt audience invalid. expected: " ++ opts.audience.getD ""⟩
  else if (truthy opts.issuer).any (Json.strOf (Json.get payload "iss") ≠ some ·) then
    .error ⟨"jwt issuer invalid. expected: " ++ opts.issuer.getD ""⟩
  else .ok ()

/-- `jwt.verify`, at a whole second. -/
def jwtVerify (format : TokenFormat Token Key) (token : Token) (opts : VerifyJwtOptions Key N)
    (now : Int) : Except JsError (List (String × Json)) := do
  format.checkHS256 token opts.key
  let payload ← parsedClaims format token
  checkClaims arith payload opts now
  return payload

def verifyJwt (format : TokenFormat Token Key) (token : Token) (opts : VerifyJwtOptions Key N)
    (clockMs : Int) : Except JsError (List (String × Json)) := do
  let alg ← format.decodeAlg token
  if alg ∉ opts.algorithms.map JwtAlgorithm.text then
    .error ⟨"token alg '" ++ alg ++ "' is not in the allowed set [" ++
      String.intercalate ", " (opts.algorithms.map JwtAlgorithm.text) ++ "]"⟩
  else if alg = "EdDSA" then verifyEdDSA arith format token opts clockMs
  else
    let payload ← jwtVerify arith format token opts (wholeSecond clockMs)
    requireExpClaim arith payload opts
    return payload

/-! ## The rules apart -/

variable (payload : List (String × Json)) (opts : VerifyJwtOptions Key N) (now : Int)

structure CommonRules : Prop where
  exp_number : opts.requireExp.getD true → (number? arith (Json.get payload "exp")).isSome
  exp_le : ∀ exp ∈ number? arith (Json.get payload "exp"),
    arith.ofInt now ≤ arith.add exp (tolerance arith opts)
  issuer : ∀ issuer ∈ opts.issuer, issuer ≠ "" → Json.strOf (Json.get payload "iss") = some issuer
  audience : ∀ audience ∈ opts.audience, audience ≠ "" → hasAudience (Json.get payload "aud") audience

structure CodecRules : Prop where
  nbf_sub_le : ∀ nbf ∈ number? arith (Json.get payload "nbf"),
    arith.sub nbf (tolerance arith opts) ≤ arith.ofInt now
  issuer : opts.issuer = some "" → Json.strOf (Json.get payload "iss") = some ""
  audience : opts.audience = some "" → hasAudience (Json.get payload "aud") ""

/-- The rules of `jsonwebtoken` only. -/
structure LibraryRules : Prop where
  nbf_le_add : ∀ nbf ∈ number? arith (Json.get payload "nbf"),
    nbf ≤ arith.add (arith.ofInt now) (tolerance arith opts)
  exp_ne : ∀ exp ∈ number? arith (Json.get payload "exp"),
    arith.ofInt now ≠ arith.add exp (tolerance arith opts)
  exp_number : (Json.get payload "exp").isSome → (number? arith (Json.get payload "exp")).isSome
  nbf_number : (Json.get payload "nbf").isSome → (number? arith (Json.get payload "nbf")).isSome

variable {arith payload opts now}

omit [LinearOrder N] in
theorem requireExpClaim_eq_ok :
    requireExpClaim arith payload opts = .ok () ↔
      (opts.requireExp.getD true → (number? arith (Json.get payload "exp")).isSome) := by
  simp [requireExpClaim, Option.isSome_iff_ne_none]

theorem not_any_iff {α : Type} {o : Option α} {p : α → Bool} :
    ¬ o.any p = true ↔ ∀ a ∈ o, p a = false := by
  cases o with
  | none => simp
  | some a => simp

theorem forall_mem_iff {P : String → Prop} (o : Option String) :
    (∀ s ∈ o, P s) ↔ (∀ s ∈ o, s ≠ "" → P s) ∧ (o = some "" → P "") := by
  constructor
  · intro h
    exact ⟨fun s hs _ => h s hs, fun hem => h "" hem⟩
  · rintro ⟨hn, hem⟩ s hs
    by_cases hs' : s = ""
    · subst hs'
      exact hem hs
    · exact hn s hs hs'

theorem forall_mem_truthy {P : String → Prop} (o : Option String) :
    (∀ s ∈ truthy o, P s) ↔ ∀ s ∈ o, s ≠ "" → P s := by
  simp only [Option.mem_def, truthy_eq_some_iff, and_imp]

theorem validateRegisteredClaims_eq_ok :
    validateRegisteredClaims arith payload opts now = .ok () ↔
      CommonRules arith payload opts now ∧ CodecRules arith payload opts now := by
  have hs := forall_mem_iff (P := fun issuer => Json.strOf (Json.get payload "iss") = some issuer)
  have hs' := forall_mem_iff (P := fun audience => hasAudience (Json.get payload "aud") audience = true)
  unfold validateRegisteredClaims
  simp only [check_bind_eq_ok, requireExpClaim_eq_ok, ite_error_eq_ok, not_any_iff,
    decide_eq_false_iff_not, not_not, Bool.not_eq_false', gt_iff_lt, not_lt, ne_eq, and_true]
  rw [hs, hs']
  constructor
  · rintro ⟨hr, hex, hn, ⟨hi, hi'⟩, ha, ha'⟩
    exact ⟨⟨hr, hex, hi, ha⟩, hn, hi', ha'⟩
  · rintro ⟨hco, hc⟩
    exact ⟨hco.exp_number, hco.exp_le, hc.nbf_sub_le, ⟨hco.issuer, hc.issuer⟩,
      hco.audience, hc.audience⟩

omit [LinearOrder N] in
theorem checkTime_eq_ok {claim : Option Json} {invalid failed : String} {passes : N → Bool} :
    checkTime arith claim invalid failed passes = .ok () ↔
      (∀ n ∈ number? arith claim, passes n) ∧ (claim.isSome → (number? arith claim).isSome) := by
  rcases claim with _ | claim
  · simp [checkTime, number?]
  · cases claim with
    | num n => by_cases hp : passes (arith.value n) <;> simp [checkTime, number?, hp]
    | _ => simp [checkTime, number?]

theorem checkClaims_eq_ok :
    checkClaims arith payload opts now = .ok () ∧ requireExpClaim arith payload opts = .ok () ↔
      CommonRules arith payload opts now ∧ LibraryRules arith payload opts now := by
  unfold checkClaims
  simp only [check_bind_eq_ok, requireExpClaim_eq_ok, checkTime_eq_ok,
    ite_error_eq_ok, not_any_iff, forall_mem_truthy, decide_eq_true_eq,
    decide_eq_false_iff_not, not_not, Bool.not_eq_false', ne_eq, and_true]
  constructor
  · rintro ⟨⟨⟨hnb, hn⟩, ⟨hex, hexpn⟩, ha, hi⟩, hr⟩
    exact ⟨⟨hr, fun exp h => (hex exp h).le, hi, ha⟩,
      hnb, fun exp h => (hex exp h).ne, hexpn, hn⟩
  · rintro ⟨hc, hl⟩
    have hex := fun exp h => lt_of_le_of_ne (hc.exp_le exp h) (hl.exp_ne exp h)
    exact ⟨⟨⟨hl.nbf_le_add, hl.nbf_number⟩, ⟨hex, hl.exp_number⟩,
      hc.audience, hc.issuer⟩, hc.exp_number⟩

end Rules

/-! ## Signed tokens -/

structure SignedToken {Token Key : Type} (format : TokenFormat Token Key) (alg : JwtAlgorithm) (key : Key)
    (payload : List (String × Json)) where
  token : Token
  decodeAlg : format.decodeAlg token = .ok alg.text
  valid : (match alg with
    | .HS256 => format.checkHS256 token key
    | .EdDSA => format.checkEdDSA token key) = .ok ()
  claims : format.claims token = some payload

section Paths

variable {N Key Token : Type} [LinearOrder N] {arith : Arithmetic N} {format : TokenFormat Token Key}
  {payload : List (String × Json)} {opts : VerifyJwtOptions Key N} {now clockMs : Int} {key key' : Key}

def Accepts (arith : Arithmetic N) (opts : VerifyJwtOptions Key N) (clockMs : Int) {alg : JwtAlgorithm}
    (signed : SignedToken format alg key payload) : Prop :=
  ∃ claims, verifyJwt arith format signed.token { opts with algorithms := [alg], key := key } clockMs =
    .ok claims

theorem parsedClaims_signed {alg : JwtAlgorithm} (signed : SignedToken format alg key payload) :
    parsedClaims format signed.token = .ok payload := by
  simp [parsedClaims, signed.claims]

theorem commonRules_with {algorithms : List JwtAlgorithm} :
    CommonRules arith payload { opts with algorithms := algorithms, key := key } now ↔
      CommonRules arith payload opts now :=
  ⟨fun h => ⟨h.exp_number, h.exp_le, h.issuer, h.audience⟩,
    fun h => ⟨h.exp_number, h.exp_le, h.issuer, h.audience⟩⟩

theorem accepts_eddsa (signed : SignedToken format .EdDSA key payload) :
    Accepts arith opts clockMs signed ↔
      CommonRules arith payload opts (wholeSecond clockMs) ∧
        CodecRules arith payload opts (wholeSecond clockMs) := by
  have hr : CodecRules arith payload { opts with algorithms := [.EdDSA], key := key }
      (wholeSecond clockMs) ↔ CodecRules arith payload opts (wholeSecond clockMs) :=
    ⟨fun h => ⟨h.nbf_sub_le, h.issuer, h.audience⟩, fun h => ⟨h.nbf_sub_le, h.issuer, h.audience⟩⟩
  have hv : format.checkEdDSA signed.token key = .ok () := signed.valid
  rw [← commonRules_with, ← hr, ← validateRegisteredClaims_eq_ok]
  -- the header, the signature and the claims are read, so only the rules are left
  simp [Accepts, verifyJwt, verifyEdDSA, bind_eq_ok, signed.decodeAlg, parsedClaims_signed,
    hv, JwtAlgorithm.text, pure, Except.pure, Unique.exists_iff]

theorem accepts_hs256 (signed : SignedToken format .HS256 key payload) :
    Accepts arith opts clockMs signed ↔
      CommonRules arith payload opts (wholeSecond clockMs) ∧
        LibraryRules arith payload opts (wholeSecond clockMs) := by
  have hr : LibraryRules arith payload { opts with algorithms := [.HS256], key := key }
      (wholeSecond clockMs) ↔ LibraryRules arith payload opts (wholeSecond clockMs) :=
    ⟨fun h => ⟨h.nbf_le_add, h.exp_ne, h.exp_number, h.nbf_number⟩,
      fun h => ⟨h.nbf_le_add, h.exp_ne, h.exp_number, h.nbf_number⟩⟩
  have hv : format.checkHS256 signed.token key = .ok () := signed.valid
  rw [← commonRules_with, ← hr, ← checkClaims_eq_ok]
  simp [Accepts, verifyJwt, jwtVerify, bind_eq_ok, signed.decodeAlg, parsedClaims_signed,
    hv, JwtAlgorithm.text, pure, Except.pure, Unique.exists_iff]

end Paths

/-! ## The claims as `Auth/Jwt.lean` reads them -/

section Reading

variable {Token Key K : Type} [Field K] [LinearOrder K]

def exactNumbers (value : JsNumber → K) : Arithmetic K := ⟨value, Int.cast, (· + ·), (· - ·)⟩

structure Reads (value : JsNumber → K) (payload : List (String × Json)) (claims : JwtPayload K) :
    Prop where
  iss : claims.iss = Json.strOf (Json.get payload "iss")
  exp : claims.exp = number? (exactNumbers value) (Json.get payload "exp")
  nbf : claims.nbf = number? (exactNumbers value) (Json.get payload "nbf")
  aud : ∀ required, matchesAudience claims.aud required = hasAudience (Json.get payload "aud") required

variable {value : JsNumber → K} {payload : List (String × Json)} {claims : JwtPayload K}
  {opts : VerifyJwtOptions Key K} {clockMs : Int}

omit [LinearOrder K] in
theorem requireExpClaim_eq (h : Reads value payload claims) :
    AcdpControlPlane.requireExpClaim claims opts = requireExpClaim (exactNumbers value) payload opts := by
  unfold AcdpControlPlane.requireExpClaim requireExpClaim
  rw [h.exp]

theorem jwtVerify_eq_ok {format : TokenFormat Token Key} {token : Token} {now : Int}
    (h : jwtVerify (exactNumbers value) format token opts now = .ok payload) :
    format.claims token = some payload ∧ checkClaims (exactNumbers value) payload opts now = .ok () := by
  obtain ⟨-, -, h⟩ := bind_eq_ok.mp h
  obtain ⟨payload', hp, h⟩ := bind_eq_ok.mp h
  obtain ⟨hr, h⟩ := check_bind_eq_ok.mp h
  cases h
  refine ⟨?_, hr⟩
  unfold parsedClaims at hp
  split at hp
  · cases hp
  · next hc =>
    cases hp
    exact hc

/-- The codec of `Auth/Jwt.lean`, on claims as they are in the token. -/
def jwtLib (format : TokenFormat Token Key) (read : List (String × Json) → JwtPayload K)
    (hread : ∀ payload, Reads value payload (read payload)) : JwtLib Token Key K where
  decode token := (format.claims token).map read
  decodeAlg := format.decodeAlg
  checkEdDSA := format.checkEdDSA
  jwtVerify token _ opts now := (jwtVerify (exactNumbers value) format token opts now).map read
  decode_of_jwtVerify {token algorithm opts now claims} h := by
    obtain ⟨payload, hverified, rfl⟩ := Throwing.map_eq_ok.mp h
    rw [(jwtVerify_eq_ok hverified).1]
    rfl
  lt_of_jwtVerify {token algorithm opts now claims} h := by
    obtain ⟨payload, hverified, rfl⟩ := Throwing.map_eq_ok.mp h
    have hrules := (jwtVerify_eq_ok hverified).2
    unfold checkClaims at hrules
    obtain ⟨-, hrules⟩ := Throwing.check_bind_eq_ok.mp hrules
    obtain ⟨hexp, -⟩ := Throwing.check_bind_eq_ok.mp hrules
    intro exp hmem
    rw [(hread payload).exp] at hmem
    simpa [exactNumbers, tolerance] using (checkTime_eq_ok.mp hexp).1 exp hmem

variable [FloorRing K] {clock : K}

theorem validateRegisteredClaims_eq (h : Reads value payload claims) (hc : ⌊clock⌋ = wholeSecond clockMs) :
    AcdpControlPlane.validateRegisteredClaims claims opts clock =
      validateRegisteredClaims (exactNumbers value) payload opts (wholeSecond clockMs) := by
  unfold AcdpControlPlane.validateRegisteredClaims validateRegisteredClaims
  rw [requireExpClaim_eq h, h.exp, h.nbf, h.iss, hc]
  simp only [h.aud]
  simp [exactNumbers, tolerance]

variable {format : TokenFormat Token Key} {read : List (String × Json) → JwtPayload K} {token : Token}
  (hread : ∀ payload, Reads value payload (read payload))

theorem verifyEdDSA_eq (hc : ⌊clock⌋ = wholeSecond clockMs) :
    AcdpControlPlane.verifyEdDSA (jwtLib format read hread) token opts clock =
      (verifyEdDSA (exactNumbers value) format token opts clockMs).map read := by
  unfold AcdpControlPlane.verifyEdDSA verifyEdDSA parsedClaims
  dsimp only [jwtLib, bind, Except.bind]
  cases format.checkEdDSA token opts.key with
  | error e => rfl
  | ok u =>
    cases format.claims token with
    | none => rfl
    | some payload =>
      dsimp only [Option.map]
      rw [validateRegisteredClaims_eq (hread payload) hc]
      cases validateRegisteredClaims (exactNumbers value) payload opts (wholeSecond clockMs) with
      | error e => rfl
      | ok u => rfl

theorem verifyJwt_eq (hc : ⌊clock⌋ = wholeSecond clockMs) :
    AcdpControlPlane.verifyJwt (jwtLib format read hread) token opts clock =
      (verifyJwt (exactNumbers value) format token opts clockMs).map read := by
  unfold AcdpControlPlane.verifyJwt verifyJwt
  rw [verifyEdDSA_eq hread hc, hc]
  dsimp only [jwtLib, bind, Except.bind]
  cases format.decodeAlg token with
  | error e => rfl
  | ok alg =>
    dsimp only
    split
    · rfl
    · split
      · rfl
      · -- the library has returned the claims, and the codec asks for an expiry
        cases jwtVerify (exactNumbers value) format token opts (wholeSecond clockMs) with
        | error e => rfl
        | ok payload =>
          dsimp only [Except.map]
          rw [requireExpClaim_eq (hread payload)]
          cases requireExpClaim (exactNumbers value) payload opts with
          | error e => rfl
          | ok u => rfl

end Reading

/-! Tokens that are their header and claims. -/

def plainFormat : TokenFormat (JwtAlgorithm × List (String × Json)) Unit where
  decodeAlg token := .ok token.1.text
  checkEdDSA _ _ := .ok ()
  checkHS256 _ _ := .ok ()
  claims token := some token.2

def plainToken (alg : JwtAlgorithm) (payload : List (String × Json)) :
    SignedToken plainFormat alg () payload where
  token := (alg, payload)
  decodeAlg := rfl
  valid := by cases alg <;> rfl
  claims := rfl

def wholeNumbers : Arithmetic Int := ⟨fun n => n.int?.getD 0, id, (· + ·), (· - ·)⟩

def sampleOptions (requireExp : Bool) : VerifyJwtOptions Unit Int :=
  ⟨[], (), some "cp", some "cp", some 5, some requireExp⟩

def samplePayload (times : List (String × Json)) : List (String × Json) :=
  [("iss", .str "cp"), ("aud", .arr [.str "cp"])] ++ times

end AcdpControlPlane.JwtCodec
