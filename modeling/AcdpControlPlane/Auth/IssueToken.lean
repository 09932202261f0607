import AcdpControlPlane.Auth.Issuance
import AcdpControlPlane.Common.Cut
import AcdpControlPlane.Common.Interaction
import AcdpControlPlane.Common.Separated

/-!
# The ledger entry of a token request

`issueToken` of `src/auth/token-issuer.service.ts` as one program. It calls the challenge store, the pinned
keys, the resolver of DIDs and the signer, each of which may return or throw, and the ledger, which does
not throw.
-/

namespace AcdpControlPlane

open List

/-! ## Tenants of agents -/

structure AgentTenantBinding where
  tenantId : String
  agentDid : String
deriving DecidableEq, Repr

/-- An entry `tenant_id:agent_did` of `TENANT_AGENTS`, or the message of the error. -/
def parseTenantAgent (entry : String) : Except String AgentTenantBinding :=
  let malformed := .error ("TENANT_AGENTS entry '" ++ entry ++ "' must be of the form 'tenant_id:agent_did'")
  match Cut.atFirst ':' entry.toList with
  | none => malformed
  | some (tenantId, agentDid) =>
    -- a part that is empty is reported here, the test for empty fields after it never is true
    if tenantId = [] ∨ agentDid = [] then malformed
    else .ok ⟨String.ofList tenantId, String.ofList agentDid⟩

def parseTenantAgents (raw : String) : Except String (List AgentTenantBinding) :=
  if jsTrim raw = "" then .ok []
  else (((Separated.split raw ',').map jsTrim).filter (· ≠ "")).mapM parseTenantAgent

def bindAgent (lookup : String → Option String) (b : AgentTenantBinding) :
    Except String (String → Option String) :=
  if (lookup b.agentDid).any (· ≠ b.tenantId) then
    .error ("agent_did '" ++ b.agentDid ++ "' is mapped to multiple tenants")
  else .ok (Function.update lookup b.agentDid (some b.tenantId))

def buildAgentTenantLookup (bindings : List AgentTenantBinding) : Except String (String → Option String) :=
  bindings.foldlM bindAgent fun _ => none

/-! ## The program -/

/-- What `issueToken` throws. -/
inductive IssueError where
  | http (exception : HttpException)
  | thrown (message : String)
deriving DecidableEq, Repr

/-- `e instanceof Error ? e.message : String(e)` -/
def IssueError.message : IssueError → String
  | http exception => exception.message
  | thrown message => message

inductive IssueCall where
  | consume (nonce : String)
  | pinnedKey (agentDid : String)
  | resolveKey (keyUrl : String) (algorithm : SignatureAlgorithm)
  | sign (claims : AcdpBearerClaims)
  | record (entry : IssuanceLedgerEntry)
deriving DecidableEq, Repr

abbrev IssueCall.Result : IssueCall → Type
  | .consume _ => Option ChallengeRecord
  | .pinnedKey _ => Option PinnedKey
  | .resolveKey _ _ => ResolvedKey
  | .sign _ => String
  | .record _ => Unit

structure SignedToken where
  token : String
  tokenType : String
  expiresAt : Int
deriving DecidableEq, Repr

abbrev IssueProgram (α : Type) := Interaction IssueCall IssueCall.Result IssueError α

/-- The service, with what it does not call over an interface that may be replaced. -/
structure TokenIssuer (Document : Type) where
  cfg : IssuerConfig
  tenantAgentsRaw : String
  sdk : AuthSdk Document
  decode : String → Option AcdpBearerClaims

namespace TokenIssuer

variable {Document : Type} {α : Type}

def consume (nonce : String) : IssueProgram (Option ChallengeRecord) :=
  Interaction.perform (IssueCall.consume nonce)

def pinnedKey (agentDid : String) : IssueProgram (Option PinnedKey) :=
  Interaction.perform (IssueCall.pinnedKey agentDid)

def resolveKey (keyUrl : String) (algorithm : SignatureAlgorithm) : IssueProgram ResolvedKey :=
  Interaction.perform (IssueCall.resolveKey keyUrl algorithm)

def sign (claims : AcdpBearerClaims) : IssueProgram String := Interaction.perform (IssueCall.sign claims)

def record (entry : IssuanceLedgerEntry) : IssueProgram Unit := Interaction.perform (IssueCall.record entry)

def rejectWith (rejection : Rejection) : IssueProgram α := do
  record rejection.entry
  Interaction.throw (.http rejection.error)

def check : Except Rejection α → IssueProgram α
  | .ok a => Interaction.pure a
  | .error rejection => rejectWith rejection

section Program

variable (issuer : TokenIssuer Document) (req : TokenRequest) (ctx : IssueTokenContext)

def webKey (resolved : ResolvedKey) : PinnedKey where
  agentDid := req.agentDid
  algorithm := resolved.algorithm
  rawB64 := resolved.publicKeyB64
  validFromSec := none
  validUntilSec := none

def unresolvedException : HttpException :=
  unauthorizedException ("agent_did '" ++ req.agentDid ++ "' could not be resolved via did:web")

def unresolvedRejection (message : String) : Rejection :=
  reject issuer.cfg req ctx .rejectUnpinned (some ("did:web resolution failed: " ++ message))
    (unresolvedException req)

/-- A resolver that throws is caught: the rejection is recorded, and there is no key. -/
def resolveDidWebKey (keyUrl : String) (algorithm : SignatureAlgorithm) : IssueProgram (Option PinnedKey) :=
  Interaction.tryCatch
    (do
      let resolved ← resolveKey keyUrl algorithm
      return some (webKey req resolved))
    fun e => do
      record (issuer.unresolvedRejection req ctx e.message).entry
      return none

def agentKey (keyUrl : String) (algorithm : SignatureAlgorithm) : IssueProgram PinnedKey := do
  match ← pinnedKey req.agentDid with
  | some key => return key
  | none =>
    if issuer.cfg.didWebResolver && isDidWeb req.agentDid then
      match ← issuer.resolveDidWebKey req ctx keyUrl algorithm with
      | some key => return key
      | none => Interaction.throw (.http (unresolvedException req))
    else rejectWith (unpinnedRejection issuer.cfg req ctx)

/-- The tenants of agents, from the text of the configuration. They are kept once they are built. -/
def agentTenantLookup : Except String (String → Option String) :=
  parseTenantAgents issuer.tenantAgentsRaw >>= buildAgentTenantLookup

def minted (now : Int) (jti : String) (lookup : String → Option String) : IssuedToken :=
  mintJwt { issuer.cfg with agentTenantLookup := lookup } req.agentDid req.keyId jti now

def mint (now : Int) (jti : String) : IssueProgram SignedToken :=
  match issuer.agentTenantLookup with
  | .error message => Interaction.throw (.thrown message)
  | .ok lookup => do
    let issued := issuer.minted req now jti lookup
    let token ← sign issued.claims
    match issuer.decode token with
    | none => Interaction.throw (.thrown "Cannot read properties of null (reading 'jti')")
    | some claims =>
      record (mintEntry req ctx { issued with claims := claims })
      return ⟨token, issued.tokenType, issued.expiresAt⟩

def verifyAndMint (challenge : ChallengeRecord) (now : Int) (jti : String) (key : PinnedKey) :
    IssueProgram SignedToken := do
  check (checkKey issuer.cfg req ctx issuer.sdk challenge key)
  issuer.mint req ctx now jti

def answerChallenge (algorithm : SignatureAlgorithm) (challenge : ChallengeRecord) (now : Int) (jti : String) :
    IssueProgram SignedToken := do
  let keyUrl ← check (checkRequest issuer.cfg req ctx challenge)
  let key ← issuer.agentKey req ctx keyUrl algorithm
  issuer.verifyAndMint req ctx challenge now jti key

def issueToken (now : Int) (jti : String) : IssueProgram SignedToken := do
  let algorithm ← check (checkAlgorithm issuer.cfg req ctx)
  match ← consume req.nonce with
  | none => rejectWith (nonceRejection issuer.cfg req ctx)
  | some challenge => issuer.answerChallenge req ctx algorithm challenge now jti

end Program

end TokenIssuer

/-! ## The ledger -/

/-- What a replica holds of the ledger: the chain in the process, and the entries that are to be written to
the table. -/
structure LedgerService where
  memoryChain : List MemoryEntry
  postgresQueue : List IssuanceLedgerEntry

namespace LedgerService

def rows (ledger : LedgerService) : List IssuanceLedgerEntry := ledger.memoryChain.map MemoryEntry.row

def record (sha256 : String → String) (authPersistence : Persistence) (ledger : LedgerService)
    (entry : IssuanceLedgerEntry) : LedgerService where
  memoryChain := recordMemory sha256 ledger.memoryChain entry
  postgresQueue :=
    match authPersistence with
    | .memory => ledger.postgresQueue
    | .postgres => ledger.postgresQueue ++ [entry]

theorem rows_record (sha256 : String → String) (authPersistence : Persistence) (ledger : LedgerService)
    (entry : IssuanceLedgerEntry) :
    (ledger.record sha256 authPersistence entry).rows = ledger.rows ++ [entry] := by
  unfold rows record recordMemory
  rw [map_append]
  rfl

def after (sha256 : String → String) (authPersistence : Persistence) (ledger : LedgerService)
    (entries : List IssuanceLedgerEntry) : LedgerService :=
  entries.foldl (record sha256 authPersistence) ledger

theorem rows_after (sha256 : String → String) (authPersistence : Persistence) (ledger : LedgerService)
    (entries : List IssuanceLedgerEntry) :
    (ledger.after sha256 authPersistence entries).rows = ledger.rows ++ entries := by
  induction entries generalizing ledger with
  | nil => exact (append_nil _).symm
  | cons entry entries ih =>
    refine (ih _).trans ?_
    rw [rows_record, append_assoc]
    rfl

end LedgerService

namespace TokenIssuer

/-! ## How a run ends -/

abbrev IssueEvent := Σ c : IssueCall, Except IssueError c.Result

def entry? : IssueEvent → Option IssuanceLedgerEntry
  | ⟨.record entry, _⟩ => some entry
  | _ => none

def entries (events : List IssueEvent) : List IssuanceLedgerEntry := events.filterMap entry?

/-- What the things that are called answer. The ledger does not throw. -/
structure Dependencies where
  consume : String → Except IssueError (Option ChallengeRecord)
  pinnedKey : String → Except IssueError (Option PinnedKey)
  resolveKey : String → SignatureAlgorithm → Except IssueError ResolvedKey
  sign : AcdpBearerClaims → Except IssueError String

def Dependencies.answer (deps : Dependencies) : (c : IssueCall) → Except IssueError c.Result
  | .consume nonce => deps.consume nonce
  | .pinnedKey agentDid => deps.pinnedKey agentDid
  | .resolveKey keyUrl algorithm => deps.resolveKey keyUrl algorithm
  | .sign claims => deps.sign claims
  | .record _ => .ok ()

/-- The run ends with its only entry, which is that of a token exactly if one is returned. -/
def OneEntry (r : List IssueEvent × Except IssueError SignedToken) : Prop :=
  ∃ before entry, r.1 = before ++ [⟨.record entry, .ok ()⟩] ∧ entries before = [] ∧
    (entry.decision = .mint ↔ ∃ token, r.2 = .ok token)

def NoEntry (r : List IssueEvent × Except IssueError SignedToken) : Prop :=
  entries r.1 = [] ∧ ∃ e, r.2 = .error e

def Settles (condition : Prop) (r : List IssueEvent × Except IssueError SignedToken) : Prop :=
  (condition ∧ OneEntry r) ∨ (¬ condition ∧ NoEntry r)

section Settles

variable {condition condition' : Prop} {r : List IssueEvent × Except IssueError SignedToken}
  {events : List IssueEvent} {outcome : Except IssueError SignedToken} {event : IssueEvent}

theorem Settles.congr (h : Settles condition r) (hi : condition ↔ condition') :
    Settles condition' r := by
  rwa [← hi]

theorem Settles.cons (h : Settles condition (events, outcome)) (hev : entry? event = none) :
    Settles condition (event :: events, outcome) := by
  rcases h with ⟨hc, before, entry, hevs, hb, hm⟩ | ⟨hc, hen, her⟩
  · refine Or.inl ⟨hc, event :: before, entry, congrArg (List.cons event) hevs, ?_, hm⟩
    exact (filterMap_cons_none hev).trans hb
  · exact Or.inr ⟨hc, (filterMap_cons_none hev).trans hen, her⟩

variable {deps : Dependencies}

theorem Settles.call {c : IssueCall} {f : c.Result → IssueProgram SignedToken} {a : c.Result}
    (ha : deps.answer c = .ok a) (hc : entry? ⟨c, .ok a⟩ = none)
    (h : Settles condition (Interaction.run deps.answer (f a))) :
    Settles condition (Interaction.run deps.answer (Interaction.perform c >>= f)) := by
  rw [Interaction.run_perform_bind_of_ok ha]
  exact h.cons hc

theorem settles_call_error {c : IssueCall} {f : c.Result → IssueProgram SignedToken} {e : IssueError}
    (ha : deps.answer c = .error e) (hc : entry? ⟨c, .error e⟩ = none) (hco : ¬ condition) :
    Settles condition (Interaction.run deps.answer (Interaction.perform c >>= f)) := by
  rw [Interaction.run_perform_bind_of_error ha]
  exact Or.inr ⟨hco, filterMap_cons_none hc, e, rfl⟩

theorem settles_throw {e : IssueError} (hc : ¬ condition) :
    Settles condition (Interaction.run deps.answer (.throw e)) :=
  Or.inr ⟨hc, rfl, e, rfl⟩

theorem settles_rejectWith {rejection : Rejection} (hd : rejection.entry.decision ≠ .mint)
    (hc : condition) : Settles condition (Interaction.run deps.answer (rejectWith rejection)) := by
  refine Or.inl ⟨hc, [], rejection.entry, rfl, rfl, iff_of_false hd ?_⟩
  rintro ⟨token, h⟩
  cases h

theorem settles_check {α : Type} {result : Except Rejection α} {f : α → IssueProgram SignedToken}
    (hr : ∀ rejection, result = .error rejection → rejection.entry.decision ≠ .mint ∧ condition)
    (hp : ∀ a, result = .ok a → Settles condition (Interaction.run deps.answer (f a))) :
    Settles condition (Interaction.run deps.answer (check result >>= f)) := by
  cases result with
  | ok a => exact hp a rfl
  | error rejection =>
    obtain ⟨hd, hc⟩ := hr rejection rfl
    exact settles_rejectWith hd hc

end Settles

/-! ## What a request rests on -/

section Answers

variable {Document : Type} (issuer : TokenIssuer Document) (req : TokenRequest) (ctx : IssueTokenContext)
  (deps : Dependencies) (now : Int) (jti : String)

/-- The claims of the request are signed, and the token can be read back. -/
def Mints : Prop :=
  ∃ lookup token claims, issuer.agentTenantLookup = .ok lookup ∧
    deps.sign (issuer.minted req now jti lookup).claims = .ok token ∧ issuer.decode token = some claims

structure Reaches (algorithm : SignatureAlgorithm) (challenge : ChallengeRecord) (keyUrl : String) :
    Prop where
  supported : checkAlgorithm issuer.cfg req ctx = .ok algorithm
  consumed : deps.consume req.nonce = .ok (some challenge)
  passes : checkRequest issuer.cfg req ctx challenge = .ok keyUrl

def FindsKey (keyUrl : String) (algorithm : SignatureAlgorithm) (key : PinnedKey) : Prop :=
  deps.pinnedKey req.agentDid = .ok (some key) ∨
    deps.pinnedKey req.agentDid = .ok none ∧ (issuer.cfg.didWebResolver && isDidWeb req.agentDid) = true ∧
      ∃ resolved, deps.resolveKey keyUrl algorithm = .ok resolved ∧ key = webKey req resolved

/-- Apart from the resolver, everything that the request comes to returns. -/
structure Answers : Prop where
  challenge : ∀ algorithm, checkAlgorithm issuer.cfg req ctx = .ok algorithm →
    ∃ challenge?, deps.consume req.nonce = .ok challenge?
  pinnedKey : ∀ algorithm challenge keyUrl, issuer.Reaches req ctx deps algorithm challenge keyUrl →
    ∃ key?, deps.pinnedKey req.agentDid = .ok key?
  token : ∀ algorithm challenge keyUrl key, issuer.Reaches req ctx deps algorithm challenge keyUrl →
    issuer.FindsKey req deps keyUrl algorithm key →
    checkKey issuer.cfg req ctx issuer.sdk challenge key = .ok () → issuer.Mints req deps now jti

end Answers

/-! ## Every exit -/

section Exits

variable {Document : Type} {issuer : TokenIssuer Document} {req : TokenRequest} {ctx : IssueTokenContext}
  {deps : Dependencies} {now : Int} {jti : String} {rejection : Rejection} {challenge : ChallengeRecord}
  {key : PinnedKey} {keyUrl : String} {algorithm : SignatureAlgorithm}

theorem decision_checkAlgorithm (h : checkAlgorithm issuer.cfg req ctx = .error rejection) :
    rejection.entry.decision ≠ .mint := by
  unfold checkAlgorithm at h
  split at h
  · cases h
  · cases h
    exact nofun

theorem decision_checkRequest (h : checkRequest issuer.cfg req ctx challenge = .error rejection) :
    rejection.entry.decision ≠ .mint := by
  unfold checkRequest at h
  split at h
  · cases h
    exact nofun
  · split at h
    · cases h
      exact nofun
    · unfold bindKeyId at h
      dsimp only at h
      -- the five ends of the check: three rejections and two DID URLs
      split at h <;> split at h <;> try split at h
      all_goals cases h
      all_goals exact nofun

theorem decision_checkKey (h : checkKey issuer.cfg req ctx issuer.sdk challenge key = .error rejection) :
    rejection.entry.decision ≠ .mint := by
  unfold checkKey at h
  split at h
  · cases h
    exact nofun
  · split at h
    · cases h
      exact nofun
    · cases h

theorem settles_mint :
    Settles (issuer.Mints req deps now jti) (Interaction.run deps.answer (issuer.mint req ctx now jti)) := by
  unfold mint
  cases hl : issuer.agentTenantLookup with
  | error message =>
    refine settles_throw ?_
    rintro ⟨lookup, token, claims, h, -⟩
    rw [hl] at h
    cases h
  | ok lookup =>
    -- only this lookup is built, so only its claims are signed
    have hm : issuer.Mints req deps now jti ↔
        ∃ token claims, deps.sign (issuer.minted req now jti lookup).claims = .ok token ∧
          issuer.decode token = some claims := by
      constructor
      · rintro ⟨lookup', token, claims, h, hs, hd⟩
        rw [hl] at h
        cases h
        exact ⟨token, claims, hs, hd⟩
      · rintro ⟨token, claims, hs, hd⟩
        exact ⟨lookup, token, claims, hl, hs, hd⟩
    refine Settles.congr ?_ hm.symm
    cases hs : deps.sign (issuer.minted req now jti lookup).claims with
    | error e =>
      refine settles_call_error hs rfl ?_
      rintro ⟨token, claims, h, -⟩
      cases h
    | ok token =>
      refine Settles.call hs rfl ?_
      cases hd : issuer.decode token with
      | none =>
        refine settles_throw ?_
        rintro ⟨token', claims, h, hc⟩
        cases h
        rw [hd] at hc
        cases hc
      | some claims =>
        exact Or.inl ⟨⟨token, claims, rfl, hd⟩, [], _, rfl, rfl, iff_of_true rfl ⟨_, rfl⟩⟩

theorem settles_verifyAndMint :
    Settles (checkKey issuer.cfg req ctx issuer.sdk challenge key = .ok () → issuer.Mints req deps now jti)
      (Interaction.run deps.answer (issuer.verifyAndMint req ctx challenge now jti key)) := by
  apply settles_check
  · intro rejection hr
    refine ⟨decision_checkKey hr, ?_⟩
    intro hp
    rw [hr] at hp
    cases hp
  · intro _ hp
    refine settles_mint.congr ⟨fun h _ => h, fun h => h hp⟩

theorem Settles.resolve {condition : Prop} {f : Option PinnedKey → IssueProgram SignedToken}
    {resolved : ResolvedKey} (ha : deps.answer (.resolveKey keyUrl algorithm) = .ok resolved)
    (h : Settles condition (Interaction.run deps.answer (f (some (webKey req resolved))))) :
    Settles condition
      (Interaction.run deps.answer (issuer.resolveDidWebKey req ctx keyUrl algorithm >>= f)) := by
  have hr : Interaction.run deps.answer (issuer.resolveDidWebKey req ctx keyUrl algorithm >>= f) =
      (⟨.resolveKey keyUrl algorithm, .ok resolved⟩ ::
        (Interaction.run deps.answer (f (some (webKey req resolved)))).1,
        (Interaction.run deps.answer (f (some (webKey req resolved)))).2) := by
    unfold resolveDidWebKey resolveKey
    simp only [Interaction.perform, bind, Interaction.bind, Interaction.tryCatch, Interaction.run, ha]
    rfl
  rw [hr]
  exact h.cons rfl

theorem settles_unresolved {condition : Prop} {f : Option PinnedKey → IssueProgram SignedToken}
    {e e' : IssueError} (ha : deps.answer (.resolveKey keyUrl algorithm) = .error e)
    (hn : f none = .throw e') (hc : condition) :
    Settles condition
      (Interaction.run deps.answer (issuer.resolveDidWebKey req ctx keyUrl algorithm >>= f)) := by
  have hr : Interaction.run deps.answer (issuer.resolveDidWebKey req ctx keyUrl algorithm >>= f) =
      (⟨.resolveKey keyUrl algorithm, .error e⟩ ::
        ⟨.record (issuer.unresolvedRejection req ctx e.message).entry, .ok ()⟩ ::
        (Interaction.run deps.answer (f none)).1, (Interaction.run deps.answer (f none)).2) := by
    unfold resolveDidWebKey resolveKey
    simp only [Interaction.perform, bind, Interaction.bind, Interaction.tryCatch, Interaction.run, ha]
    rfl
  rw [hr, hn]
  refine Or.inl ⟨hc, [_], _, rfl, rfl, iff_of_false nofun ?_⟩
  rintro ⟨token, h⟩
  cases h

theorem settles_agentKey :
    Settles ((∃ key?, deps.pinnedKey req.agentDid = .ok key?) ∧
        ∀ key, issuer.FindsKey req deps keyUrl algorithm key →
          checkKey issuer.cfg req ctx issuer.sdk challenge key = .ok () → issuer.Mints req deps now jti)
      (Interaction.run deps.answer (issuer.agentKey req ctx keyUrl algorithm >>=
        issuer.verifyAndMint req ctx challenge now jti)) := by
  unfold agentKey
  rw [Interaction.bind_assoc]
  cases hp : deps.pinnedKey req.agentDid with
  | error e =>
    refine settles_call_error hp rfl ?_
    rintro ⟨⟨key?, h⟩, -⟩
    cases h
  | ok key? =>
    refine Settles.call hp rfl ?_
    cases key? with
    | some key =>
      have hf : ∀ key', issuer.FindsKey req deps keyUrl algorithm key' ↔ key = key' := by
        simp [FindsKey, hp]
      exact settles_verifyAndMint.congr (by simp [hf])
    | none =>
      dsimp only
      split
      · next hw =>
        rw [Interaction.bind_assoc]
        cases hr : deps.resolveKey keyUrl algorithm with
        | ok resolved =>
          have hf : ∀ key', issuer.FindsKey req deps keyUrl algorithm key' ↔
              key' = webKey req resolved := by simp [FindsKey, hp, hw, hr]
          refine Settles.resolve hr (settles_verifyAndMint.congr ?_)
          simp [hf]
        | error e =>
          have hf : ∀ key', ¬ issuer.FindsKey req deps keyUrl algorithm key' := by
            simp [FindsKey, hp, hr]
          refine settles_unresolved hr rfl ⟨⟨none, rfl⟩, ?_⟩
          intro key hk
          exact absurd hk (hf key)
      · next hw =>
        have hf : ∀ key', ¬ issuer.FindsKey req deps keyUrl algorithm key' := by
          simp [FindsKey, hp, hw]
        refine settles_rejectWith nofun ⟨⟨none, rfl⟩, ?_⟩
        intro key hk
        exact absurd hk (hf key)

theorem settles_answerChallenge :
    Settles (∀ keyUrl, checkRequest issuer.cfg req ctx challenge = .ok keyUrl →
        (∃ key?, deps.pinnedKey req.agentDid = .ok key?) ∧
          ∀ key, issuer.FindsKey req deps keyUrl algorithm key →
            checkKey issuer.cfg req ctx issuer.sdk challenge key = .ok () → issuer.Mints req deps now jti)
      (Interaction.run deps.answer (issuer.answerChallenge req ctx algorithm challenge now jti)) := by
  apply settles_check
  · intro rejection hr
    refine ⟨decision_checkRequest hr, ?_⟩
    intro keyUrl hp
    rw [hr] at hp
    cases hp
  · intro keyUrl hp
    refine settles_agentKey.congr ⟨?_, fun h => h keyUrl hp⟩
    intro h keyUrl' hp'
    rw [hp] at hp'
    cases hp'
    exact h

theorem Answers.of_forall_not_reaches
    (hc : ∀ algorithm, checkAlgorithm issuer.cfg req ctx = .ok algorithm →
      ∃ challenge?, deps.consume req.nonce = .ok challenge?)
    (h : ∀ algorithm challenge keyUrl, ¬ issuer.Reaches req ctx deps algorithm challenge keyUrl) :
    issuer.Answers req ctx deps now jti :=
  ⟨hc, fun _ _ _ hr => absurd hr (h _ _ _),
    fun _ _ _ _ hr => absurd hr (h _ _ _)⟩

theorem answers_iff (ha : checkAlgorithm issuer.cfg req ctx = .ok algorithm)
    (hc : deps.consume req.nonce = .ok (some challenge)) :
    issuer.Answers req ctx deps now jti ↔
      ∀ keyUrl, checkRequest issuer.cfg req ctx challenge = .ok keyUrl →
        (∃ key?, deps.pinnedKey req.agentDid = .ok key?) ∧
          ∀ key, issuer.FindsKey req deps keyUrl algorithm key →
            checkKey issuer.cfg req ctx issuer.sdk challenge key = .ok () →
              issuer.Mints req deps now jti := by
  constructor
  · intro h keyUrl hp
    have hrc : issuer.Reaches req ctx deps algorithm challenge keyUrl :=
      ⟨ha, hc, hp⟩
    exact ⟨h.pinnedKey _ _ _ hrc, fun key => h.token _ _ _ key hrc⟩
  · intro h
    -- there is one algorithm and one challenge that the request reaches
    have hrc : ∀ algorithm' challenge' keyUrl,
        issuer.Reaches req ctx deps algorithm' challenge' keyUrl →
          algorithm' = algorithm ∧ challenge' = challenge := by
      rintro algorithm' challenge' keyUrl ⟨hs, hco, -⟩
      rw [ha] at hs
      rw [hc] at hco
      cases hs
      cases hco
      exact ⟨rfl, rfl⟩
    refine ⟨fun _ _ => ⟨_, hc⟩, ?_, ?_⟩
    · intro algorithm' challenge' keyUrl hr
      obtain ⟨rfl, rfl⟩ := hrc _ _ _ hr
      exact (h keyUrl hr.passes).1
    · intro algorithm' challenge' keyUrl key hr
      obtain ⟨rfl, rfl⟩ := hrc _ _ _ hr
      exact (h keyUrl hr.passes).2 key

theorem settles_issueToken :
    Settles (issuer.Answers req ctx deps now jti)
      (Interaction.run deps.answer (issuer.issueToken req ctx now jti)) := by
  apply settles_check
  · intro rejection hr
    have hn : ∀ algorithm, ¬ checkAlgorithm issuer.cfg req ctx = .ok algorithm := by simp [hr]
    exact ⟨decision_checkAlgorithm hr, .of_forall_not_reaches (fun _ h => absurd h (hn _))
      fun _ _ _ h => hn _ h.supported⟩
  · intro algorithm ha
    cases hc : deps.consume req.nonce with
    | error e =>
      refine settles_call_error hc rfl ?_
      intro h
      obtain ⟨challenge?, hch⟩ := h.challenge algorithm ha
      rw [hc] at hch
      cases hch
    | ok challenge? =>
      refine Settles.call hc rfl ?_
      cases challenge? with
      | none =>
        refine settles_rejectWith nofun (.of_forall_not_reaches (fun _ _ => ⟨_, hc⟩) ?_)
        intro _ _ _ h
        have hco := h.consumed
        rw [hc] at hco
        cases hco
      | some challenge => exact settles_answerChallenge.congr (answers_iff ha hc).symm

/-! ## One entry -/

theorem entries_append (events events' : List IssueEvent) :
    entries (events ++ events') = entries events ++ entries events' := filterMap_append

theorem OneEntry.eq_nil {r : List IssueEvent × Except IssueError SignedToken} (h : OneEntry r)
    {before after : List IssueEvent} {entry : IssuanceLedgerEntry}
    (hevs : r.1 = before ++ ⟨.record entry, .ok ()⟩ :: after) :
    after = [] ∧ (entry.decision = .mint ↔ ∃ token, r.2 = .ok token) := by
  obtain ⟨before', entry', hl, hen, hm⟩ := h
  rcases eq_nil_or_concat after with rfl | ⟨after, event, rfl⟩
  · rw [hevs] at hl
    obtain ⟨-, hev⟩ := append_inj' hl rfl
    cases hev
    exact ⟨rfl, hm⟩
  · -- otherwise the entry is among the events before the last
    have hb : before' = before ++ ⟨.record entry, .ok ()⟩ :: after := by
      rw [hevs, concat_eq_append, ← cons_append, ← append_assoc] at hl
      exact (append_inj' hl rfl).1.symm
    rw [hb, entries_append] at hen
    cases (append_eq_nil_iff.mp hen).2

/-- **The ledger entry of a token request.** A call appends exactly one entry to the ledger, that of a
token if and only if it returns one, exactly if everything that it comes to returns, apart from the
resolver. Nothing follows the entry of a token. -/
theorem one_entry_iff (sha256 : String → String) (ledger : LedgerService) :
    ((∃ entry, (ledger.after sha256 issuer.cfg.authPersistence
            (entries (Interaction.run deps.answer (issuer.issueToken req ctx now jti)).1)).rows =
          ledger.rows ++ [entry] ∧
        (entry.decision = .mint ↔
          ∃ token, (Interaction.run deps.answer (issuer.issueToken req ctx now jti)).2 = .ok token)) ↔
      issuer.Answers req ctx deps now jti) ∧
    ∀ before entry after, (Interaction.run deps.answer (issuer.issueToken req ctx now jti)).1 =
        before ++ ⟨.record entry, .ok ()⟩ :: after → entry.decision = .mint → after = [] ∧
      ∃ token, (Interaction.run deps.answer (issuer.issueToken req ctx now jti)).2 = .ok token := by
  have hs := @settles_issueToken Document issuer req ctx deps now jti
  simp only [LedgerService.rows_after, append_cancel_left_eq]
  rcases hs with ⟨ha, ho⟩ | ⟨ha, hen, her⟩
  · refine ⟨iff_of_true ?_ ha, ?_⟩
    · obtain ⟨before, entry, hev, hb, hm⟩ := ho
      refine ⟨entry, ?_, hm⟩
      rw [hev, entries_append, hb]
      rfl
    · intro before entry after hev hd
      obtain ⟨haf, hm⟩ := ho.eq_nil hev
      exact ⟨haf, hm.mp hd⟩
  · refine ⟨iff_of_false ?_ ha, ?_⟩
    · rintro ⟨entry, h, -⟩
      rw [hen] at h
      cases h
    · intro before entry after hev
      rw [hev, entries_append] at hen
      cases (append_eq_nil_iff.mp hen).2

end Exits

/-- The service, and a challenge store and pinned keys that answer a valid request. -/
def answeringIssuer (tenantAgentsRaw : String) : TokenIssuer Unit where
  cfg := memoryIssuer
  tenantAgentsRaw
  sdk := acceptingSdk
  decode _ := some (mintJwt memoryIssuer "did:web:a" "did:web:a#k" "jti" 0).claims

def answering : Dependencies where
  consume _ := .ok (some AcdpControlPlane.answer.challenge.record)
  pinnedKey _ := .ok (some ⟨"did:web:a", .ed25519, "key", none, none⟩)
  resolveKey _ _ := .error (.thrown "unreachable")
  sign _ := .ok "token"

def answeringRun (tenantAgentsRaw : String) (deps : Dependencies) :
    List IssueEvent × Except IssueError SignedToken :=
  let call := AcdpControlPlane.answer
  Interaction.run deps.answer ((answeringIssuer tenantAgentsRaw).issueToken call.req call.ctx 0 "jti")

/-- The challenge store fails, the signer fails, or the text of `TENANT_AGENTS` is malformed. -/
theorem requests_without_entry :
    NoEntry (answeringRun "" { answering with consume := fun _ => .error (.thrown "timeout") }) ∧
      NoEntry (answeringRun "" { answering with sign := fun _ => .error (.thrown "no key") }) ∧
      NoEntry (answeringRun "acme" answering) :=
  ⟨⟨rfl, _, rfl⟩, ⟨rfl, _, rfl⟩, rfl, _, rfl⟩

end TokenIssuer

end AcdpControlPlane
