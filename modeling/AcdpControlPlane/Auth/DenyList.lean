import AcdpControlPlane.Auth.Jwt
import AcdpControlPlane.Common.Trace

/-!
# Revoked tokens

Once a token is on the deny-list, it is not to be accepted again. The list forgets a record when it
takes the token to have expired; the verifiers have their own tests for that. So a revoked token is
safe at an instant if its record still counts there, or if it no longer passes the codec.
-/

namespace AcdpControlPlane

/-- The two verifiers. The validator may meet any signing key of an issuer. -/
inductive Verifier (Key : Type) where
  | issuer
  | validator (signingKey : Except JsError Key)

/-- What may happen to the deny-list, with the time. -/
inductive DenyEvent (Token Key K : Type) where
  | revoke (record : RevocationRecord K) (now : K)
  | evictExpired (now : K)
  | isRevoked (iss jti : String) (now : K)
  | verify (verifier : Verifier Key) (token : Token) (verifiedAt now : K)

def DenyEvent.now {Token Key K : Type} : DenyEvent Token Key K → K
  | revoke _ now => now
  | evictExpired now => now
  | isRevoked _ _ now => now
  | verify _ _ _ now => now

/-- The deny-list, and the time of the latest event. -/
structure DenyState (K : Type) (persistence : Persistence) where
  table : RevocationTable K persistence
  clock : K

section Runs

variable {Token Key K : Type} [Field K] [LinearOrder K] [FloorRing K]
  (cfg : VerifierConfig Token Key) (lib : JwtLib Token Key K)

def returnedClaims (verifier : Verifier Key) (token : Token) (verifiedAt now : K)
    (table : RevocationTable K cfg.persistence) : Except HttpException (JwtPayload K) :=
  match verifier with
  | .issuer => (TokenIssuer.verifyJwt cfg lib token verifiedAt now table).1
  | .validator signingKey =>
    (CrossIssuerValidator.verifyWithProvenance cfg lib signingKey token verifiedAt now table).1.map
      Prod.fst

def DenyEvent.apply (event : DenyEvent Token Key K) (table : RevocationTable K cfg.persistence) :
    RevocationTable K cfg.persistence :=
  match event with
  | .revoke record now => (AcdpControlPlane.revoke record now table).2
  | .evictExpired now => AcdpControlPlane.evictExpired now table
  | .isRevoked iss jti now => (AcdpControlPlane.isRevoked iss jti now table).2
  | .verify .issuer token verifiedAt now =>
    (TokenIssuer.verifyJwt cfg lib token verifiedAt now table).2
  | .verify (.validator signingKey) token verifiedAt now =>
    (CrossIssuerValidator.verifyWithProvenance cfg lib signingKey token verifiedAt now table).2

inductive DenyStep : DenyEvent Token Key K → DenyState K cfg.persistence →
    DenyState K cfg.persistence → Prop where
  | event {s : DenyState K cfg.persistence} (event : DenyEvent Token Key K)
      (clock : s.clock ≤ event.now) :
      DenyStep event s ⟨event.apply cfg lib s.table, event.now⟩

def JwtPayload.IsOf (claims : JwtPayload K) (record : RevocationRecord K) : Prop :=
  claims.iss = some record.iss ∧ claims.jti = record.jti ∧ claims.exp = some record.exp

def Returns (claims : JwtPayload K) : DenyEvent Token Key K × DenyState K cfg.persistence → Prop
  | (.verify verifier token verifiedAt now, s) =>
    returnedClaims cfg lib verifier token verifiedAt now s.table = .ok claims
  | _ => False

/-- A call with the token of a record comes after the expiry, as the codec counts it, or looks the
token up while its record counts. -/
def CoveredCall (record : RevocationRecord K) :
    DenyEvent Token Key K × DenyState K cfg.persistence → Prop
  | (.verify verifier token verifiedAt now, _) =>
    ∀ claims, lib.decode token = some claims → claims.IsOf record →
      (∀ alg, lib.decodeAlg token = .ok alg → ¬ Unexpired alg record.exp verifiedAt) ∨
      (InForce cfg.persistence record.exp now ∧ (verifier ≠ .issuer → record.jti ≠ ""))
  | _ => True

/-- A record is on the list, or has expired by a whole second. -/
def Held (record : RevocationRecord K) (s : DenyState K cfg.persistence) : Prop :=
  (∃ row ∈ s.table.rows, row.key cfg.persistence = record.key cfg.persistence ∧
    row.exp = record.exp) ∨ record.exp < (⌊s.clock⌋ : K)

end Runs

section Rejection

variable {Token Key K : Type} [Field K] [LinearOrder K] [IsStrictOrderedRing K] [FloorRing K]
  {cfg : VerifierConfig Token Key} {lib : JwtLib Token Key K} {record row : RevocationRecord K}
  {event : DenyEvent Token Key K} {s s' initial : DenyState K cfg.persistence}
  {table : RevocationTable K cfg.persistence} {claims : JwtPayload K}
  {later earlier : List (DenyEvent Token Key K × DenyState K cfg.persistence)}

omit [IsStrictOrderedRing K] in
theorem mem_apply_of_mem (h : row ∈ table.rows) (hl : ¬ row.exp < (⌊event.now⌋ : K)) :
    row ∈ (event.apply cfg lib table).rows := by
  cases event with
  | revoke record now => exact mem_revoke_of_mem h
  | evictExpired now => exact mem_evictExpired_of_mem h hl
  | isRevoked iss jti now => exact mem_isRevoked_of_mem h hl
  | verify verifier token verifiedAt now =>
    cases verifier with
    | issuer =>
      -- a verification touches the list by a lookup at most
      dsimp only [DenyEvent.apply]
      rcases TokenIssuer.verifyJwt_snd cfg lib token verifiedAt now table with heq | ⟨claims, heq⟩
      · rw [heq]
        exact h
      · rw [heq]
        exact mem_isRevoked_of_mem h hl
    | validator signingKey =>
      dsimp only [DenyEvent.apply]
      rcases CrossIssuerValidator.verifyWithProvenance_snd cfg lib signingKey token verifiedAt now
        table with heq | ⟨claims, heq⟩
      · rw [heq]
        exact h
      · rw [heq]
        exact mem_isRevoked_of_mem h hl

theorem Held.step (h : Held cfg record s) (hs : DenyStep cfg lib event s s') :
    Held cfg record s' := by
  obtain ⟨event, hc⟩ := hs
  by_cases hex : record.exp < (⌊event.now⌋ : K)
  · exact Or.inr hex
  rcases h with ⟨row, hr, hk, hexp⟩ | hl
  · rw [← hexp] at hex
    exact Or.inl ⟨row, mem_apply_of_mem hr hex, hk, hexp⟩
  · have hf : (⌊s.clock⌋ : K) ≤ (⌊event.now⌋ : K) := Int.cast_le.mpr (Int.floor_mono hc)
    exact absurd (lt_of_lt_of_le hl hf) hex

theorem held_of_run {recordedAt : K} {s₀ : DenyState K cfg.persistence}
    (hn : (revoke record recordedAt s₀.table).1 = .ok true)
    (hr : TracedRun (DenyStep cfg lib) initial
      (later ++ (.revoke record recordedAt, s₀) :: earlier) s) : Held cfg record s := by
  induction later generalizing s with
  | nil =>
    cases hr with
    | step run next =>
      cases next
      exact Or.inl ⟨_, mem_revoke_of_new hn, rfl, rfl⟩
  | cons entry later ih =>
    cases hr with
    | step run next => exact (ih run).step next

theorem Held.lookup (h : Held cfg record s) (ho : claims.IsOf record) {now : K}
    (hc : s.clock ≤ now) (hfr : InForce cfg.persistence record.exp now) :
    (lookupToken cfg claims now s.table).1 = true := by
  obtain ⟨hi, hj, -⟩ := ho
  rcases h with ⟨row, hr, hk, hex⟩ | hl
  · have hfn : row.key cfg.persistence =
        revocationKey cfg.persistence (claims.iss.getD "undefined") claims.jti := by
      rw [hk, hi, hj]
      rfl
    refine (isRevoked_of_mem hr hfn).mpr ?_
    rw [hex]
    exact hfr
  · have hf : (⌊s.clock⌋ : K) ≤ (⌊now⌋ : K) := Int.cast_le.mpr (Int.floor_mono hc)
    exact absurd (lt_of_lt_of_le hl hf) hfr.not_floor_lt

omit [IsStrictOrderedRing K] in
theorem passed_of_returnedClaims {verifier : Verifier Key} {token : Token} {verifiedAt now : K}
    (h : returnedClaims cfg lib verifier token verifiedAt now table = .ok claims) :
    Passed lib token verifiedAt claims ∧
      ((verifier ≠ .issuer ∧ claims.jti = "") ∨ (lookupToken cfg claims now table).1 = false) := by
  cases verifier with
  | issuer =>
    -- the issuer looks up every token
    obtain ⟨hp, hf⟩ := TokenIssuer.verifyJwt_eq_ok h
    exact ⟨hp, Or.inr hf⟩
  | validator signingKey =>
    dsimp only [returnedClaims] at h
    cases hr : (CrossIssuerValidator.verifyWithProvenance cfg lib signingKey token verifiedAt
      now table).1 with
    | error e =>
      rw [hr] at h
      cases h
    | ok result =>
      rw [hr] at h
      cases h
      -- the validator skips the lookup of a token without a jti
      obtain ⟨hp, hem | hf⟩ := CrossIssuerValidator.verifyWithProvenance_eq_ok hr
      · exact ⟨hp, Or.inl ⟨nofun, hem⟩⟩
      · exact ⟨hp, Or.inr hf⟩

/-- In every run, whatever evictions and lookups it has: once a revocation is recorded, no later call
of a verifier returns the claims it was made of, if the later calls with these claims are covered. -/
theorem revoked_rejected {recordedAt : K} {s₀ : DenyState K cfg.persistence}
    (hrun : TracedRun (DenyStep cfg lib) initial
      (later ++ (.revoke record recordedAt, s₀) :: earlier) s)
    (hnew : (revoke record recordedAt s₀.table).1 = .ok true)
    (hcovered : ∀ entry ∈ later, CoveredCall cfg lib record entry) :
    ∀ entry ∈ later, ∀ claims, Returns cfg lib claims entry → ¬ claims.IsOf record := by
  intro entry hen claims hr ho
  obtain ⟨after, before, rfl⟩ := List.append_of_mem hen
  have hco := hcovered entry hen
  rw [List.append_assoc, List.cons_append] at hrun
  obtain ⟨hb, s', hs⟩ := hrun.at_entry
  -- the record is still held in the state of the call
  have hh := held_of_run hnew hb
  obtain ⟨event, s₁⟩ := entry
  cases event with
  | revoke record now => exact hr
  | evictExpired now => exact hr
  | isRevoked iss jti now => exact hr
  | verify verifier token verifiedAt now =>
    obtain ⟨⟨hd, alg, ha, hu⟩, hl⟩ := passed_of_returnedClaims hr
    have hc : s₁.clock ≤ now := by
      cases hs with
      | event _ hc => exact hc
    -- the call rejects the token as expired, or finds the record
    rcases hco claims hd ho with hex | ⟨hfr, hj⟩
    · exact hex alg ha (hu record.exp (Option.mem_def.mpr ho.2.2))
    · rcases hl with ⟨hv, hem⟩ | hf
      · exact hj hv (ho.2.1 ▸ hem)
      · rw [hh.lookup ho hc hfr] at hf
        cases hf

/-- Tokens that carry their algorithm and claims, with any signature. -/
def plainLib : JwtLib (String × JwtPayload ℚ) Unit ℚ where
  decode token := some token.2
  decodeAlg token := .ok token.1
  checkEdDSA _ _ := .ok ()
  jwtVerify token _ opts now :=
    if ∀ exp ∈ token.2.exp, (now : ℚ) < exp + opts.clockToleranceSec.getD 0 then .ok token.2
    else .error ⟨"jwt expired"⟩
  decode_of_jwtVerify h := by
    split at h
    · cases h
      rfl
    · cases h
  lt_of_jwtVerify h := by
    split at h
    · next hunexpired =>
      cases h
      exact hunexpired
    · cases h

def plainConfig (persistence : Persistence) : VerifierConfig (String × JwtPayload ℚ) Unit where
  jwtAuthority := "cp.test"
  jwtAudience := "cp.test"
  signingAlgorithm := .EdDSA
  verifyKey := ()
  trusted _ := none
  persistence := persistence

def sampleClaims : JwtPayload ℚ :=
  ⟨some "cp.test", some "did:web:a", "jti", some 100, none, some (.one "cp.test"), [], none⟩

def sampleRecord : RevocationRecord ℚ :=
  ⟨"jti", "did:web:a", "cp.test", 100, "admin", .adminRevoke, none⟩

/-- With the map: the token is revoked at second 50, and presented in the second of its expiry. -/
theorem revoked_rejected_memory :
    ∃ later s, TracedRun (DenyStep (plainConfig .memory) plainLib) ⟨.empty _, 0⟩
        (later ++ (.revoke sampleRecord 50, ⟨.empty _, 0⟩) :: []) s ∧
      (∃ entry ∈ later, entry.1 = .verify .issuer ("EdDSA", sampleClaims) 100 100) ∧
      ∀ entry ∈ later, ¬ Returns (plainConfig .memory) plainLib sampleClaims entry := by
  have h0 : TracedRun (DenyStep (plainConfig .memory) plainLib) ⟨.empty _, 0⟩ [] _ := .start
  have h1 := h0.step (.event (.revoke sampleRecord 50) (by decide))
  have h2 := h1.step (.event (.evictExpired 60) (by decide))
  have h3 := h2.step (.event (.verify .issuer ("EdDSA", sampleClaims) 100 100) (by decide))
  have hru : TracedRun (DenyStep (plainConfig .memory) plainLib) _ ([_, _] ++ _ :: []) _ := h3
  have ho : sampleClaims.IsOf sampleRecord := ⟨rfl, rfl, rfl⟩
  refine ⟨[_, _], _, h3, ⟨_, List.mem_cons_self, rfl⟩, ?_⟩
  intro entry hen hr
  refine revoked_rejected hru (by decide) ?_ entry hen _ hr ho
  refine List.forall_mem_cons.mpr ⟨?_, List.forall_mem_cons.mpr ⟨trivial, List.forall_mem_nil _⟩⟩
  intro claims _ _
  exact Or.inr ⟨by decide, fun h => absurd rfl h⟩

/-- With the table, the same token is accepted: its record counts before second 100 only. -/
theorem revoked_accepted :
    ∃ s₁ s, TracedRun (DenyStep (plainConfig .postgres) plainLib) ⟨.empty _, 0⟩
        [(.verify .issuer ("EdDSA", sampleClaims) 100 100, s₁),
          (.revoke sampleRecord 50, ⟨.empty _, 0⟩)] s ∧
      (revoke sampleRecord 50 (.empty (RevocationRecord.key .postgres))).1 = .ok true ∧
      sampleClaims.IsOf sampleRecord ∧
      Returns (plainConfig .postgres) plainLib sampleClaims
        (.verify .issuer ("EdDSA", sampleClaims) 100 100, s₁) := by
  have h0 : TracedRun (DenyStep (plainConfig .postgres) plainLib) ⟨.empty _, 0⟩ [] _ := .start
  have h1 := h0.step (.event (.revoke sampleRecord 50) (by decide))
  have h2 := h1.step (.event (.verify .issuer ("EdDSA", sampleClaims) 100 100) (by decide))
  refine ⟨_, _, h2, by decide, ⟨rfl, rfl, rfl⟩, ?_⟩
  show returnedClaims _ _ _ _ _ _ _ = _
  decide +kernel

end Rejection

end AcdpControlPlane
