import AcdpControlPlane.Auth.Issuer
import AcdpControlPlane.Common.Trace

/-!
# Token issuance under any interleaving

Calls of `issueChallenge` and `issueToken` overlap as they like. A token request gives up control at
its awaits: when it takes its challenge out of the store, and when it resolves the key of an agent
that has no pinned key in its window. What lies between two awaits is one event, so a request is up to
three events, with any events of other requests between them.
-/

namespace AcdpControlPlane

open List

/-! ## Requests in progress -/

structure Call where
  req : TokenRequest
  ctx : IssueTokenContext
  algorithm : SignatureAlgorithm
  challenge : StoredChallenge
deriving DecidableEq, Repr

/-- The challenges, the requests at their awaits, and what has been returned and recorded. -/
structure IssuerState where
  challenges : ChallengeStore
  issued : ℕ
  consumed : List Call
  resolving : List (Call × String)
  returned : List (Call × IssuedToken)
  ledger : List IssuanceLedgerEntry

namespace IssuerState

def initial : IssuerState := ⟨fun _ => none, 0, [], [], [], []⟩

/-- The requests that took a challenge and were not rejected. -/
def holders (s : IssuerState) : List Call :=
  s.consumed ++ (s.resolving.map Prod.fst ++ s.returned.map Prod.fst)

def rejected (s : IssuerState) (rejection : Rejection) : IssuerState :=
  { s with ledger := s.ledger ++ [rejection.entry] }

def settle (s : IssuerState) (call : Call) : Except Rejection IssuedToken → IssuerState
  | .ok token =>
    { s with
      returned := (call, token) :: s.returned
      ledger := s.ledger ++ [mintEntry call.req call.ctx token] }
  | .error rejection => s.rejected rejection

end IssuerState

inductive IssuerEvent (Document : Type) where
  | issueChallenge (agentDid nonce : String) (now : Int) (fault : Fault)
  | consume (req : TokenRequest) (ctx : IssueTokenContext) (now : Int) (fault : Fault)
  | lookup (call : Call) (keys : PinnedKeys) (now : Int) (jti : String)
  | resolve (call : Call) (keyUrl : String) (env : ResolverEnv Document) (now : Int) (jti : String)
  | evictExpired (now : Int)

section Steps

variable {Document : Type} (cfg : IssuerConfig) (sdk : AuthSdk Document)

def mintWithKey (call : Call) (key : PinnedKey) (now : Int) (jti : String) :
    Except Rejection IssuedToken := do
  checkKey cfg call.req call.ctx sdk call.challenge.record key
  return mintJwt cfg call.req.agentDid call.req.keyId jti now

/-- The store keeps a new challenge, unless its statement is lost. -/
def issueChallenge (agentDid nonce : String) (now : Int) (fault : Fault) (s : IssuerState) :
    IssuerState :=
  let record := newChallenge nonce agentDid cfg.jwtAuthority cfg.challengeTtlSeconds now
  match fault with
  | .lost => s
  | .none | .unacknowledged =>
    { s with
      challenges := (ChallengeStore.put cfg.authPersistence ⟨s.issued, record⟩ s.challenges).2
      issued := s.issued + 1 }

/-- `issueToken`, up to the end of its first await. -/
def consume (req : TokenRequest) (ctx : IssueTokenContext) (now : Int) (fault : Fault)
    (s : IssuerState) : IssuerState :=
  match checkAlgorithm cfg req ctx with
  | .error rejection => s.rejected rejection
  | .ok algorithm =>
    let taken := ChallengeStore.take cfg.authPersistence now req.nonce s.challenges
    match fault with
    | .lost => s
    | .unacknowledged => { s with challenges := taken.2 }
    | .none =>
      match taken.1 with
      | none => ({ s with challenges := taken.2 } : IssuerState).rejected (nonceRejection cfg req ctx)
      | some challenge =>
        { s with
          challenges := taken.2
          consumed := ⟨req, ctx, algorithm, challenge⟩ :: s.consumed }

/-- `issueToken`, from its challenge to its end or to the await of the document. A pinned key goes
first, inside its window. -/
def lookupKey (call : Call) (keys : PinnedKeys) (now : Int) (jti : String) (s : IssuerState) :
    IssuerState :=
  match checkRequest cfg call.req call.ctx call.challenge.record with
  | .error rejection => s.rejected rejection
  | .ok keyUrl =>
    match keys.get call.req.agentDid now with
    | some key => s.settle call (mintWithKey cfg sdk call key now jti)
    | none =>
      if cfg.didWebResolver && isDidWeb call.req.agentDid then
        { s with resolving := (call, keyUrl) :: s.resolving }
      else s.rejected (unpinnedRejection cfg call.req call.ctx)

/-- `issueToken`, from the reply of the resolver to its end. -/
def resolveAndMint (call : Call) (keyUrl : String) (env : ResolverEnv Document) (now : Int)
    (jti : String) : Except Rejection IssuedToken := do
  let key ← resolveDidWebKey cfg call.req call.ctx sdk env call.algorithm keyUrl
  mintWithKey cfg sdk call key now jti

inductive IssuerStep : IssuerEvent Document → IssuerState → IssuerState → Prop where
  | issueChallenge {s : IssuerState} (agentDid nonce : String) (now : Int) (fault : Fault) :
      IssuerStep (.issueChallenge agentDid nonce now fault) s
        (issueChallenge cfg agentDid nonce now fault s)
  | consume {s : IssuerState} (req : TokenRequest) (ctx : IssueTokenContext) (now : Int)
      (fault : Fault) :
      IssuerStep (.consume req ctx now fault) s (consume cfg req ctx now fault s)
  | lookup {s : IssuerState} (call : Call) (keys : PinnedKeys) (now : Int) (jti : String)
      (mem : call ∈ s.consumed) :
      IssuerStep (.lookup call keys now jti) s
        (lookupKey cfg sdk call keys now jti { s with consumed := s.consumed.erase call })
  | resolve {s : IssuerState} (call : Call) (keyUrl : String) (env : ResolverEnv Document)
      (now : Int) (jti : String) (mem : (call, keyUrl) ∈ s.resolving) :
      IssuerStep (.resolve call keyUrl env now jti) s
        (({ s with resolving := s.resolving.erase (call, keyUrl) } : IssuerState).settle call
          (resolveAndMint cfg sdk call keyUrl env now jti))
  | evictExpired {s : IssuerState} (now : Int) :
      IssuerStep (.evictExpired now) s
        { s with challenges := ChallengeStore.evictExpired now s.challenges }

abbrev IssuerRun (history : List (IssuerEvent Document × IssuerState)) (s : IssuerState) : Prop :=
  TracedRun (IssuerStep cfg sdk) IssuerState.initial history s

/-! ## What precedes a token -/

variable (history : List (IssuerEvent Document × IssuerState))

def Creates (challenge : StoredChallenge) : IssuerEvent Document × IssuerState → Prop
  | (.issueChallenge agentDid nonce now fault, s) =>
    fault ≠ .lost ∧ challenge = ⟨s.issued,
      newChallenge nonce agentDid cfg.jwtAuthority cfg.challengeTtlSeconds now⟩
  | _ => False

def Consumes (serial : ℕ) : IssuerEvent Document × IssuerState → Prop
  | (.consume req _ now fault, s) =>
    fault ≠ .lost ∧ (SignatureAlgorithm.ofText? req.algorithm).isSome ∧ ∃ challenge,
      (ChallengeStore.take cfg.authPersistence now req.nonce s.challenges).1 = some challenge ∧
        challenge.serial = serial
  | _ => False

/-- A request took its challenge, by its nonce: the challenge had been created, it had not expired,
and no request had taken it before. -/
def Consumed (call : Call) : Prop :=
  ∃ later earlier now s,
    history = later ++ (.consume call.req call.ctx now .none, s) :: earlier ∧
    SignatureAlgorithm.ofText? call.req.algorithm = some call.algorithm ∧
    (ChallengeStore.take cfg.authPersistence now call.req.nonce s.challenges).1 =
      some call.challenge ∧
    call.challenge.record.nonce = call.req.nonce ∧
    nowSeconds now ≤ call.challenge.record.expiresAt ∧
    (∃ entry ∈ earlier, Creates cfg call.challenge entry) ∧
    ∀ entry ∈ earlier, ¬ Consumes cfg call.challenge.serial entry

/-- A request found no pinned key in its window, and waits for the document of its agent. -/
def Unpinned (call : Call) (keyUrl : String) : Prop :=
  ∃ keys now jti s, (.lookup call keys now jti, s) ∈ history ∧
    (∀ pinned ∈ keys call.req.agentDid, ¬ pinned.InWindow now) ∧
    isDidWeb call.req.agentDid = true ∧
    checkRequest cfg call.req call.ctx call.challenge.record = .ok keyUrl

/-- A key of the agent of a request: pinned and in its window, or, if none is, a key of the algorithm
of the request in the document of the agent's DID. -/
def AgentKey (call : Call) (key : PinnedKey) : Prop :=
  (∃ keys now jti s, (.lookup call keys now jti, s) ∈ history ∧
    keys call.req.agentDid = some key ∧ key.InWindow now) ∨
  ∃ keyUrl, Unpinned cfg history call keyUrl ∧
    ∃ env now jti s url doc resolved, (.resolve call keyUrl env now jti, s) ∈ history ∧
      env.resolveDocument (stripFragment call.req.agentDid) url = .ok doc ∧
      sdk.keyForAlgorithm doc keyUrl call.algorithm = .ok resolved ∧
      key.rawB64 = resolved.publicKeyB64 ∧ key.algorithm = resolved.algorithm

structure Authorized (call : Call) (token : IssuedToken) : Prop where
  consumed : Consumed cfg history call
  sub : token.claims.sub = call.challenge.record.agentDid
  agent : call.req.agentDid = call.challenge.record.agentDid
  expiresAt : call.req.expiresAt = call.challenge.record.expiresAt
  keyId : KeyIdBound call.req.agentDid call.req.keyId
  signature : ∃ key, AgentKey cfg sdk history call key ∧ key.algorithm.text = call.req.algorithm ∧
    verifySignatureB64 sdk key.algorithm key.rawB64 call.challenge.record.signingInput
      call.req.signature = true

end Steps

section Safety

variable {Document : Type} {cfg : IssuerConfig} {sdk : AuthSdk Document}
  {history : List (IssuerEvent Document × IssuerState)} {s s' : IssuerState}
  {event : IssuerEvent Document} {entry : IssuerEvent Document × IssuerState} {call : Call}
  {token : IssuedToken} {key : PinnedKey} {keyUrl : String}

theorem Consumed.cons (h : Consumed cfg history call) : Consumed cfg (entry :: history) call := by
  obtain ⟨later, earlier, now, s, rfl, h⟩ := h
  exact ⟨entry :: later, earlier, now, s, rfl, h⟩

theorem Unpinned.cons (h : Unpinned cfg history call keyUrl) :
    Unpinned cfg (entry :: history) call keyUrl := by
  obtain ⟨keys, now, jti, s, hm, h⟩ := h
  exact ⟨keys, now, jti, s, mem_cons_of_mem _ hm, h⟩

theorem AgentKey.cons (h : AgentKey cfg sdk history call key) :
    AgentKey cfg sdk (entry :: history) call key := by
  rcases h with ⟨keys, now, jti, s, hm, h⟩ | ⟨keyUrl, hu, env, now, jti, s, url, doc,
    resolved, hm, h⟩
  · exact Or.inl ⟨keys, now, jti, s, mem_cons_of_mem _ hm, h⟩
  · exact Or.inr ⟨keyUrl, hu.cons, env, now, jti, s, url, doc, resolved,
      mem_cons_of_mem _ hm, h⟩

theorem Authorized.cons (h : Authorized cfg sdk history call token) :
    Authorized cfg sdk (entry :: history) call token := by
  obtain ⟨key, hk, hs⟩ := h.signature
  exact ⟨h.consumed.cons, h.sub, h.agent, h.expiresAt, h.keyId, key, hk.cons, hs⟩

/-! ## Who holds a challenge -/

theorem holders_perm_of_consumed (mem : call ∈ s.consumed) :
    s.holders.Perm
      (call :: ({ s with consumed := s.consumed.erase call } : IssuerState).holders) :=
  (perm_cons_erase mem).append_right _

theorem holders_perm_of_resolving (mem : (call, keyUrl) ∈ s.resolving) :
    s.holders.Perm (call ::
      ({ s with resolving := s.resolving.erase (call, keyUrl) } : IssuerState).holders) := by
  have hp := ((perm_cons_erase mem).map Prod.fst).append_right (s.returned.map Prod.fst)
  exact (hp.append_left s.consumed).trans perm_middle

theorem holders_settle (result : Except Rejection IssuedToken) :
    (s.settle call result).holders.Subperm (call :: s.holders) := by
  cases result with
  | error rejection => exact Subperm.cons_self
  | ok token =>
    have hp : (s.resolving.map Prod.fst ++ call :: s.returned.map Prod.fst).Perm
        (call :: (s.resolving.map Prod.fst ++ s.returned.map Prod.fst)) := perm_middle
    exact ((hp.append_left s.consumed).trans perm_middle).subperm

theorem holders_lookupKey (keys : PinnedKeys) (now : Int) (jti : String) :
    (lookupKey cfg sdk call keys now jti s).holders.Subperm (call :: s.holders) := by
  unfold lookupKey
  split
  · exact Subperm.cons_self
  · split
    · exact holders_settle _
    · split
      · exact perm_middle.subperm
      · exact Subperm.cons_self

theorem nodup_serials_of_subperm {calls calls' : List Call} (h : calls'.Subperm calls)
    (hn : (calls.map (·.challenge.serial)).Nodup) : (calls'.map (·.challenge.serial)).Nodup := by
  obtain ⟨middle, hp, hs⟩ := h
  exact (hp.map _).nodup_iff.mp (hn.sublist (hs.map _))

/-! ## The store -/

/-- The stored challenges: each under its nonce, created, and not taken yet. -/
structure StoreSafe (cfg : IssuerConfig) (history : List (IssuerEvent Document × IssuerState))
    (s : IssuerState) : Prop where
  nonce : ∀ nonce challenge, s.challenges nonce = some challenge → challenge.record.nonce = nonce
  created : ∀ nonce challenge, s.challenges nonce = some challenge →
    ∃ entry ∈ history, Creates cfg challenge entry
  fresh : ∀ nonce challenge, s.challenges nonce = some challenge → challenge.serial < s.issued
  unique : ∀ nonce challenge nonce' challenge', s.challenges nonce = some challenge →
    s.challenges nonce' = some challenge' → challenge.serial = challenge'.serial → nonce = nonce'
  unconsumed : ∀ nonce challenge, s.challenges nonce = some challenge →
    ∀ entry ∈ history, ¬ Consumes cfg challenge.serial entry
  consumed : ∀ entry ∈ history, ∀ serial, Consumes cfg serial entry → serial < s.issued

theorem StoreSafe.shrink (h : StoreSafe cfg history s) (hi : s'.issued = s.issued)
    (hs : ∀ nonce challenge, s'.challenges nonce = some challenge →
      s.challenges nonce = some challenge)
    (hco : ∀ serial, Consumes cfg serial entry → serial < s.issued ∧
      ∀ nonce challenge, s'.challenges nonce = some challenge → challenge.serial ≠ serial) :
    StoreSafe cfg (entry :: history) s' := by
  constructor
  · intro nonce challenge hm
    exact h.nonce _ _ (hs _ _ hm)
  · intro nonce challenge hm
    obtain ⟨created, hcr, hcrs⟩ := h.created _ _ (hs _ _ hm)
    exact ⟨created, mem_cons_of_mem _ hcr, hcrs⟩
  · intro nonce challenge hm
    rw [hi]
    exact h.fresh _ _ (hs _ _ hm)
  · intro nonce challenge nonce' challenge' hm hm'
    exact h.unique _ _ _ _ (hs _ _ hm) (hs _ _ hm')
  · intro nonce challenge hm
    -- the entry that is added consumes none of the challenges that are left
    refine forall_mem_cons.mpr ⟨?_, h.unconsumed _ _ (hs _ _ hm)⟩
    intro hc
    exact (hco _ hc).2 _ _ hm rfl
  · rw [hi]
    refine forall_mem_cons.mpr ⟨?_, h.consumed⟩
    intro serial hc
    exact (hco serial hc).1

theorem StoreSafe.issueChallenge (h : StoreSafe cfg history s) (agentDid nonce : String) (now : Int)
    (fault : Fault) : StoreSafe cfg ((.issueChallenge agentDid nonce now fault, s) :: history)
      (issueChallenge cfg agentDid nonce now fault s) := by
  by_cases hl : fault = .lost
  · subst hl
    exact h.shrink rfl (fun _ _ hm => hm) (fun _ hc => hc.elim)
  have hp : AcdpControlPlane.issueChallenge cfg agentDid nonce now fault s =
      { s with
        challenges := (ChallengeStore.put cfg.authPersistence ⟨s.issued, newChallenge nonce agentDid
          cfg.jwtAuthority cfg.challengeTtlSeconds now⟩ s.challenges).2
        issued := s.issued + 1 } := by
    cases fault with
    | lost => exact absurd rfl hl
    | none => rfl
    | unacknowledged => rfl
  rw [hp]
  constructor
  · intro nonce' challenge hm
    rcases ChallengeStore.stored_of_put hm with ⟨rfl, rfl⟩ | hm
    · rfl
    · exact h.nonce _ _ hm
  · intro nonce' challenge hm
    rcases ChallengeStore.stored_of_put hm with ⟨rfl, -⟩ | hm
    · exact ⟨_, mem_cons_self, hl, rfl⟩
    · obtain ⟨entry, hen, hcr⟩ := h.created _ _ hm
      exact ⟨entry, mem_cons_of_mem _ hen, hcr⟩
  · intro nonce' challenge hm
    rcases ChallengeStore.stored_of_put hm with ⟨rfl, -⟩ | hm
    · exact Nat.lt_succ_self _
    · exact Nat.lt_succ_of_lt (h.fresh _ _ hm)
  · intro nonce₁ challenge₁ nonce₂ challenge₂ hm₁ hm₂ hs
    -- the new serial is above all serials before it
    rcases ChallengeStore.stored_of_put hm₁ with ⟨rfl, rfl⟩ | ho₁ <;>
      rcases ChallengeStore.stored_of_put hm₂ with ⟨rfl, rfl⟩ | ho₂
    · rfl
    · exact absurd hs (Nat.ne_of_gt (h.fresh _ _ ho₂))
    · exact absurd hs (Nat.ne_of_lt (h.fresh _ _ ho₁))
    · exact h.unique _ _ _ _ ho₁ ho₂ hs
  · intro nonce' challenge hm
    refine forall_mem_cons.mpr ⟨not_false, ?_⟩
    rcases ChallengeStore.stored_of_put hm with ⟨rfl, -⟩ | hm
    · intro entry hen hc
      exact Nat.lt_irrefl _ (h.consumed entry hen _ hc)
    · exact h.unconsumed _ _ hm
  · refine forall_mem_cons.mpr ⟨fun _ hc => hc.elim, ?_⟩
    intro entry hen serial hc
    exact Nat.lt_succ_of_lt (h.consumed entry hen serial hc)

theorem checkAlgorithm_eq_error {req : TokenRequest} {ctx : IssueTokenContext}
    {rejection : Rejection} (h : checkAlgorithm cfg req ctx = .error rejection) :
    SignatureAlgorithm.ofText? req.algorithm = none := by
  unfold checkAlgorithm at h
  split at h
  · cases h
  · next ha => exact ha

theorem StoreSafe.consume (h : StoreSafe cfg history s) (req : TokenRequest)
    (ctx : IssueTokenContext) (now : Int) (fault : Fault) :
    StoreSafe cfg ((.consume req ctx now fault, s) :: history) (consume cfg req ctx now fault s) := by
  -- the store after the statement
  have ht : ∀ s' : IssuerState, s'.issued = s.issued →
      s'.challenges = (ChallengeStore.take cfg.authPersistence now req.nonce s.challenges).2 →
      StoreSafe cfg ((.consume req ctx now fault, s) :: history) s' := by
    intro s' hi hc
    refine h.shrink hi ?_ ?_
    · intro nonce challenge hm
      rw [hc] at hm
      exact ChallengeStore.stored_of_take hm
    · rintro serial ⟨-, -, taken, hta, rfl⟩
      obtain ⟨hst, -, hg⟩ := ChallengeStore.take_eq_some hta
      refine ⟨h.fresh _ _ hst, ?_⟩
      intro nonce challenge hm hse
      rw [hc] at hm
      have hn := h.unique _ _ _ _ (ChallengeStore.stored_of_take hm) hst hse
      rw [hn, hg] at hm
      cases hm
  simp only [AcdpControlPlane.consume]
  split
  · next rejection ha =>
    refine h.shrink rfl (fun _ _ hm => hm) ?_
    rintro serial ⟨-, hs, -⟩
    rw [checkAlgorithm_eq_error ha] at hs
    cases hs
  · cases fault with
    | lost => exact h.shrink rfl (fun _ _ hm => hm) (fun _ hco => absurd rfl hco.1)
    | unacknowledged => exact ht _ rfl rfl
    | none =>
      dsimp only
      split
      · exact ht _ rfl rfl
      · exact ht _ rfl rfl

theorem StoreSafe.congr (h : StoreSafe cfg history s) (hi : s'.issued = s.issued)
    (hc : s'.challenges = s.challenges)
    (hco : ∀ serial, ¬ Consumes cfg serial entry) : StoreSafe cfg (entry :: history) s' := by
  refine h.shrink hi ?_ (fun serial hs => absurd hs (hco serial))
  intro nonce challenge hm
  rw [hc] at hm
  exact hm

@[simp] theorem settle_challenges (result : Except Rejection IssuedToken) :
    (s.settle call result).challenges = s.challenges := by
  cases result <;> rfl

@[simp] theorem settle_issued (result : Except Rejection IssuedToken) :
    (s.settle call result).issued = s.issued := by
  cases result <;> rfl

@[simp] theorem settle_resolving (result : Except Rejection IssuedToken) :
    (s.settle call result).resolving = s.resolving := by
  cases result <;> rfl

variable {call' : Call} {now : Int} {jti : String} {keys : PinnedKeys}

theorem mem_returned_settle {result : Except Rejection IssuedToken}
    (h : (call', token) ∈ (s.settle call result).returned) :
    (call', token) ∈ s.returned ∨ call' = call ∧ result = .ok token := by
  cases result with
  | error rejection => exact Or.inl h
  | ok token' =>
    rcases mem_cons.mp h with heq | hm
    · cases heq
      exact Or.inr ⟨rfl, rfl⟩
    · exact Or.inl hm

/-! ## Requests -/

theorem mintWithKey_eq_ok (h : mintWithKey cfg sdk call key now jti = .ok token) :
    checkKey cfg call.req call.ctx sdk call.challenge.record key = .ok () ∧
      token = mintJwt cfg call.req.agentDid call.req.keyId jti now := by
  obtain ⟨passed, hk, h⟩ := Throwing.bind_eq_ok.mp h
  cases h
  exact ⟨hk, rfl⟩

theorem authorized_of_mint (hc : Consumed cfg history call)
    (hr : checkRequest cfg call.req call.ctx call.challenge.record = .ok keyUrl)
    (hk : AgentKey cfg sdk history call key)
    (hm : mintWithKey cfg sdk call key now jti = .ok token) :
    Authorized cfg sdk history call token := by
  obtain ⟨hp, rfl⟩ := mintWithKey_eq_ok hm
  obtain ⟨ha, hex, hb⟩ := checkRequest_eq_ok hr
  obtain ⟨hal, hs⟩ := checkKey_eq_ok hp
  exact ⟨hc, ha.symm, ha.symm, hex.symm, (keyIdBound_of_bindKeyId hb).1,
    key, hk, hal.symm, hs⟩

theorem mem_returned_lookupKey (h : (call', token) ∈ (lookupKey cfg sdk call keys now jti s).returned) :
    (call', token) ∈ s.returned ∨ call' = call ∧ ∃ keyUrl key,
      checkRequest cfg call.req call.ctx call.challenge.record = .ok keyUrl ∧
      keys.get call.req.agentDid now = some key ∧
      mintWithKey cfg sdk call key now jti = .ok token := by
  unfold lookupKey at h
  split at h
  · exact Or.inl h
  · next keyUrl hr =>
    split at h
    · next key hk =>
      rcases mem_returned_settle h with hme | ⟨rfl, hm⟩
      · exact Or.inl hme
      · exact Or.inr ⟨rfl, keyUrl, key, hr, hk, hm⟩
    · split at h
      · exact Or.inl h
      · exact Or.inl h

theorem mem_resolving_lookupKey
    (h : (call', keyUrl) ∈ (lookupKey cfg sdk call keys now jti s).resolving) :
    (call', keyUrl) ∈ s.resolving ∨ call' = call ∧ keys.get call.req.agentDid now = none ∧
      isDidWeb call.req.agentDid = true ∧
      checkRequest cfg call.req call.ctx call.challenge.record = .ok keyUrl := by
  unfold lookupKey at h
  split at h
  · exact Or.inl h
  · next keyUrl' hr =>
    split at h
    · rw [settle_resolving] at h
      exact Or.inl h
    · next hk =>
      split at h
      · next hw =>
        rcases mem_cons.mp h with heq | hm
        · cases heq
          exact Or.inr ⟨rfl, hk, (Bool.and_eq_true_iff.mp hw).2, hr⟩
        · exact Or.inl hm
      · exact Or.inl h

theorem lookupKey_store (cfg : IssuerConfig) (sdk : AuthSdk Document) (call : Call)
    (keys : PinnedKeys) (now : Int) (jti : String) (s : IssuerState) :
    (lookupKey cfg sdk call keys now jti s).issued = s.issued ∧
      (lookupKey cfg sdk call keys now jti s).challenges = s.challenges := by
  unfold lookupKey
  split
  · exact ⟨rfl, rfl⟩
  · split
    · exact ⟨settle_issued _, settle_challenges _⟩
    · split
      · exact ⟨rfl, rfl⟩
      · exact ⟨rfl, rfl⟩

theorem consume_cases (cfg : IssuerConfig) (req : TokenRequest) (ctx : IssueTokenContext) (now : Int)
    (fault : Fault) (s : IssuerState) :
    ((consume cfg req ctx now fault s).consumed = s.consumed ∨
      ∃ algorithm challenge, fault = .none ∧
        SignatureAlgorithm.ofText? req.algorithm = some algorithm ∧
        (ChallengeStore.take cfg.authPersistence now req.nonce s.challenges).1 = some challenge ∧
        (consume cfg req ctx now fault s).consumed = ⟨req, ctx, algorithm, challenge⟩ :: s.consumed) ∧
      (consume cfg req ctx now fault s).resolving = s.resolving ∧
      (consume cfg req ctx now fault s).returned = s.returned := by
  simp only [AcdpControlPlane.consume]
  split
  · exact ⟨Or.inl rfl, rfl, rfl⟩
  · next algorithm ha =>
    -- without an acknowledgement the call throws, even if the challenge is gone
    cases fault with
    | lost => exact ⟨Or.inl rfl, rfl, rfl⟩
    | unacknowledged => exact ⟨Or.inl rfl, rfl, rfl⟩
    | none =>
      dsimp only
      split
      · exact ⟨Or.inl rfl, rfl, rfl⟩
      · next challenge ht =>
        refine ⟨Or.inr ⟨algorithm, challenge, rfl, ?_, ht, rfl⟩, rfl, rfl⟩
        unfold checkAlgorithm at ha
        split at ha
        · next ha =>
          cases ha
          exact ha
        · cases ha

theorem issueChallenge_requests (cfg : IssuerConfig) (agentDid nonce : String) (now : Int)
    (fault : Fault) (s : IssuerState) :
    (issueChallenge cfg agentDid nonce now fault s).holders = s.holders ∧
      (issueChallenge cfg agentDid nonce now fault s).resolving = s.resolving ∧
      (issueChallenge cfg agentDid nonce now fault s).returned = s.returned := by
  cases fault <;> exact ⟨rfl, rfl, rfl⟩

/-! ## Runs -/

structure Safe (cfg : IssuerConfig) (sdk : AuthSdk Document)
    (history : List (IssuerEvent Document × IssuerState)) (s : IssuerState) : Prop where
  store : StoreSafe cfg history s
  held : ∀ call ∈ s.holders, Consumed cfg history call
  unique : (s.holders.map (·.challenge.serial)).Nodup
  resolving : ∀ call keyUrl, (call, keyUrl) ∈ s.resolving → Unpinned cfg history call keyUrl
  returned : ∀ call token, (call, token) ∈ s.returned → Authorized cfg sdk history call token

theorem Safe.of_subperm (h : Safe cfg sdk history s) (hs : StoreSafe cfg (entry :: history) s')
    (hh : s'.holders.Subperm s.holders) (hrs : ∀ call keyUrl, (call, keyUrl) ∈ s'.resolving →
      (call, keyUrl) ∈ s.resolving ∨ Unpinned cfg (entry :: history) call keyUrl)
    (hr : ∀ call token, (call, token) ∈ s'.returned →
      (call, token) ∈ s.returned ∨ Authorized cfg sdk (entry :: history) call token) :
    Safe cfg sdk (entry :: history) s' := by
  refine ⟨hs, ?_, nodup_serials_of_subperm hh h.unique, ?_, ?_⟩
  · intro call hc
    exact (h.held call (hh.subset hc)).cons
  · intro call keyUrl hm
    rcases hrs call keyUrl hm with hm | hu
    · exact (h.resolving call keyUrl hm).cons
    · exact hu
  · intro call token hm
    rcases hr call token hm with hm | ha
    · exact (h.returned call token hm).cons
    · exact ha

theorem Consumed.consumes (h : Consumed cfg history call) :
    ∃ entry ∈ history, Consumes cfg call.challenge.serial entry := by
  obtain ⟨later, earlier, now, s, rfl, ha, ht, -⟩ := h
  refine ⟨_, mem_append_right _ mem_cons_self, ?_⟩
  refine ⟨nofun, ?_, call.challenge, ht, rfl⟩
  rw [ha]
  rfl

theorem Safe.step (h : Safe cfg sdk history s) (hste : IssuerStep cfg sdk event s s') :
    Safe cfg sdk ((event, s) :: history) s' := by
  cases hste with
  | issueChallenge agentDid nonce now fault =>
    -- issuing a challenge does not concern the requests in progress
    obtain ⟨hho, hrs, hr⟩ :=
      issueChallenge_requests cfg agentDid nonce now fault s
    refine h.of_subperm (h.store.issueChallenge agentDid nonce now fault) ?_ ?_ ?_
    · rw [hho]
    · intro call keyUrl hm
      rw [hrs] at hm
      exact Or.inl hm
    · intro call token hm
      rw [hr] at hm
      exact Or.inl hm
  | consume req ctx now fault =>
    have hst := h.store.consume req ctx now fault
    obtain ⟨hc, hrs, hr⟩ := consume_cases cfg req ctx now fault s
    rcases hc with hc | ⟨algorithm, challenge, rfl, ha, ht, hc⟩
    · refine h.of_subperm hst ?_ (fun _ _ hm => ?_) (fun _ _ hm => ?_)
      · unfold IssuerState.holders
        rw [hc, hrs, hr]
      · rw [hrs] at hm
        exact Or.inl hm
      · rw [hr] at hm
        exact Or.inl hm
    · obtain ⟨hs, hune, -⟩ := ChallengeStore.take_eq_some ht
      have hu := h.store.unconsumed _ _ hs
      have hho : (AcdpControlPlane.consume cfg req ctx now .none s).holders =
          ⟨req, ctx, algorithm, challenge⟩ :: s.holders := by
        unfold IssuerState.holders
        rw [hc, hrs, hr]
        rfl
      refine ⟨hst, ?_, ?_, ?_, ?_⟩
      · rw [hho]
        refine forall_mem_cons.mpr ⟨?_, fun call hca => (h.held call hca).cons⟩
        exact ⟨[], history, now, s, rfl, ha, ht, h.store.nonce _ _ hs, hune,
          h.store.created _ _ hs, hu⟩
      · -- whoever holds a challenge consumed it, and this one was in the store
        rw [hho, map_cons, nodup_cons]
        refine ⟨?_, h.unique⟩
        intro hse
        obtain ⟨call, hca, heq⟩ := mem_map.mp hse
        obtain ⟨entry, hen, hco⟩ := (h.held call hca).consumes
        rw [heq] at hco
        exact hu entry hen hco
      · intro call keyUrl hm
        rw [hrs] at hm
        exact (h.resolving call keyUrl hm).cons
      · intro call token hm
        rw [hr] at hm
        exact (h.returned call token hm).cons
  | lookup call keys now jti mem =>
    obtain ⟨hi, hch⟩ :=
      lookupKey_store cfg sdk call keys now jti { s with consumed := s.consumed.erase call }
    have hh : Consumed cfg ((.lookup call keys now jti, s) :: history) call :=
      (h.held call (mem_append_left _ mem)).cons
    refine h.of_subperm (h.store.congr hi hch (fun _ => not_false)) ?_ ?_ ?_
    · exact (holders_lookupKey keys now jti).trans (holders_perm_of_consumed mem).symm.subperm
    · intro call' keyUrl hm
      rcases mem_resolving_lookupKey hm with hm | ⟨rfl, hk, hw, hre⟩
      · exact Or.inl hm
      · exact Or.inr ⟨keys, now, jti, s, mem_cons_self, PinnedKeys.get_eq_none_iff.mp hk, hw,
          hre⟩
    · intro call' token hm
      rcases mem_returned_lookupKey hm with hm | ⟨rfl, keyUrl, key, hre, hk, hmi⟩
      · exact Or.inl hm
      · refine Or.inr (authorized_of_mint hh hre (Or.inl ?_) hmi)
        exact ⟨keys, now, jti, s, mem_cons_self, PinnedKeys.get_eq_some_iff.mp hk⟩
  | resolve call keyUrl env now jti mem =>
    have hca : call ∈ s.holders :=
      (holders_perm_of_resolving mem).mem_iff.mpr mem_cons_self
    have hh : Consumed cfg ((.resolve call keyUrl env now jti, s) :: history) call :=
      (h.held call hca).cons
    have hun : Unpinned cfg ((.resolve call keyUrl env now jti, s) :: history) call keyUrl :=
      (h.resolving call keyUrl mem).cons
    refine h.of_subperm ?_ ?_ ?_ ?_
    · exact h.store.congr (settle_issued _) (settle_challenges _) (fun _ => not_false)
    · exact (holders_settle _).trans (holders_perm_of_resolving mem).symm.subperm
    · intro call' keyUrl' hm
      rw [settle_resolving] at hm
      exact Or.inl (mem_of_mem_erase hm)
    · -- a token that is new was minted with the key of the document
      intro call' token hm
      rcases mem_returned_settle hm with hm | ⟨rfl, hmi⟩
      · exact Or.inl hm
      · obtain ⟨key, hrsv, hmi⟩ := Throwing.bind_eq_ok.mp hmi
        obtain ⟨_, _, _, _, _, _, _, hre⟩ := id hun
        obtain ⟨url, doc, resolved, hd, hres, hra, ha⟩ :=
          resolveDidWebKey_eq_ok hrsv
        rw [(keyIdBound_of_bindKeyId (checkRequest_eq_ok hre).2.2).2] at hd
        refine Or.inr (authorized_of_mint hh hre (Or.inr ⟨keyUrl, hun, ?_⟩) hmi)
        exact ⟨env, now, jti, s, url, doc, resolved, mem_cons_self, hd, hres, hra,
          ha⟩
  | evictExpired now =>
    refine h.of_subperm (h.store.shrink rfl ?_ (fun _ hc => hc.elim))
      (Subperm.refl _) (fun _ _ hm => Or.inl hm) (fun _ _ hm => Or.inl hm)
    intro nonce challenge hm
    exact ChallengeStore.stored_of_evictExpired hm

theorem safe_of_run (hr : IssuerRun cfg sdk history s) : Safe cfg sdk history s := by
  refine TracedRun.invariant ?_ (fun _ _ _ _ _ h hs => h.step hs) hr
  have hst : StoreSafe cfg ([] : List (IssuerEvent Document × IssuerState)) .initial := by
    constructor <;> simp [IssuerState.initial]
  exact ⟨hst, forall_mem_nil _, nodup_nil, fun _ _ h => absurd h not_mem_nil,
    fun _ _ h => absurd h not_mem_nil⟩

/-- Whatever calls of `issueChallenge` and `issueToken` overlap, and whichever statements fail: every
token that has been returned was authorized, and no two came from one challenge. -/
theorem tokens_authorized (hrun : IssuerRun cfg sdk history s) :
    (∀ call token, (call, token) ∈ s.returned → Authorized cfg sdk history call token) ∧
      (s.returned.map fun entry => entry.1.challenge.serial).Nodup := by
  have hs := safe_of_run hrun
  refine ⟨hs.returned, ?_⟩
  have hsu : (s.returned.map Prod.fst).Sublist s.holders :=
    (sublist_append_right _ _).trans (sublist_append_right _ _)
  have hn := hs.unique.sublist (hsu.map (·.challenge.serial))
  rwa [map_map] at hn

/-- A configuration with the in-memory store, and a verifier that accepts the signature `sig`. -/
def memoryIssuer : IssuerConfig :=
  ⟨"cp.test", "cp.test", 3600, 300, fun _ => none, .memory, true⟩

def acceptingSdk : AuthSdk Unit where
  webToUrl did := .ok did
  keyForAlgorithm _ didUrl algorithm := .ok ⟨didUrl, algorithm, "key"⟩
  verifySignature _ signature _ := .ok (signature = "sig")
  verifySignatureP256 _ signature _ := .ok (signature = "sig")

def answer : Call where
  req := ⟨"did:web:a", "did:web:a#k", "n", 300, "ed25519", "sig"⟩
  ctx := ⟨none⟩
  algorithm := .ed25519
  challenge := ⟨0, newChallenge "n" "did:web:a" "cp.test" 300 0⟩

/-- An agent with a pinned key asks for a challenge and answers it. -/
theorem tokens_authorized_pinned :
    ∃ history s token, IssuerRun memoryIssuer acceptingSdk history s ∧
      (answer, token) ∈ s.returned ∧ Authorized memoryIssuer acceptingSdk history answer token := by
  have h0 : IssuerRun memoryIssuer acceptingSdk [] .initial := .start
  have h1 := h0.step (.issueChallenge "did:web:a" "n" 0 .none)
  have h2 := h1.step (.consume answer.req answer.ctx 0 .none)
  have h3 := h2.step (.lookup answer (fun _ => some ⟨"did:web:a", .ed25519, "key", none, none⟩) 0 "jti"
    (mem_singleton.mpr rfl))
  refine ⟨_, _, mintJwt memoryIssuer "did:web:a" "did:web:a#k" "jti" 0, h3, ?_,
    (tokens_authorized h3).1 _ _ ?_⟩
  · exact mem_singleton.mpr rfl
  · exact mem_singleton.mpr rfl

end Safety

end AcdpControlPlane
