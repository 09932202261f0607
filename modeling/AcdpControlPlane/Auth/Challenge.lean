import AcdpControlPlane.Auth.Keys
import AcdpControlPlane.Witness.Store

/-!
# Challenges

A challenge is a nonce that an agent signs once. It is kept in a process-local map or in the table
`auth_challenges`, and a token request takes it out again: `take` removes what it returns, in one step
(`src/auth/challenge-store.service.ts` and the two repositories).
-/

namespace AcdpControlPlane

structure ChallengeRecord where
  nonce : String
  agentDid : String
  registryAuthority : String
  signingInput : String
  expiresAt : Int
deriving DecidableEq, Repr

def signingInputFor (nonce agentDid authority : String) (expiresAt : Int) : String :=
  "acdp-registry-auth:v1:" ++ nonce ++ ":" ++ agentDid ++ ":" ++ authority ++ ":" ++
    toString expiresAt

def newChallenge (nonce agentDid registryAuthority : String) (ttlSeconds now : Int) :
    ChallengeRecord :=
  let expiresAt := nowSeconds now + ttlSeconds
  { nonce
    agentDid
    registryAuthority
    signingInput := signingInputFor nonce agentDid registryAuthority expiresAt
    expiresAt }

inductive Persistence where
  | memory
  | postgres
deriving DecidableEq, Repr

structure StoredChallenge where
  serial : ℕ
  record : ChallengeRecord
deriving DecidableEq, Repr

abbrev ChallengeStore := String → Option StoredChallenge

namespace ChallengeStore

def duplicateKeyError : JsError :=
  ⟨"duplicate key value violates unique constraint \"auth_challenges_pkey\""⟩

def put (persistence : Persistence) (challenge : StoredChallenge) (store : ChallengeStore) :
    Except JsError Unit × ChallengeStore :=
  match persistence with
  | .memory => (.ok (), Function.update store challenge.record.nonce (some challenge))
  | .postgres =>
    match store challenge.record.nonce with
    | some _ => (.error duplicateKeyError, store)
    | none => (.ok (), Function.update store challenge.record.nonce (some challenge))

def take (persistence : Persistence) (now : Int) (nonce : String) (store : ChallengeStore) :
    Option StoredChallenge × ChallengeStore :=
  match store nonce with
  | none => (none, store)
  | some challenge =>
    match persistence with
    | .memory =>
      (if challenge.record.expiresAt < nowSeconds now then none else some challenge,
        Function.update store nonce none)
    | .postgres =>
      if challenge.record.expiresAt * 1000000 > now then
        (some challenge, Function.update store nonce none)
      else (none, store)

def evictExpired (now : Int) (store : ChallengeStore) : ChallengeStore := fun nonce =>
  match store nonce with
  | none => none
  | some challenge => if challenge.record.expiresAt < nowSeconds now then none else some challenge

variable {persistence : Persistence} {now : Int} {nonce nonce' : String} {store : ChallengeStore}
  {challenge challenge' : StoredChallenge}

theorem stored_of_put (h : (put persistence challenge store).2 nonce = some challenge') :
    challenge' = challenge ∧ nonce = challenge.record.nonce ∨ store nonce = some challenge' := by
  have hu : Function.update store challenge.record.nonce (some challenge) nonce =
      some challenge' →
      challenge' = challenge ∧ nonce = challenge.record.nonce ∨ store nonce = some challenge' := by
    intro hs
    by_cases hn : nonce = challenge.record.nonce
    · subst hn
      rw [Function.update_self] at hs
      cases hs
      exact Or.inl ⟨rfl, rfl⟩
    · rw [Function.update_of_ne hn] at hs
      exact Or.inr hs
  unfold put at h
  cases persistence with
  | memory => exact hu h
  -- the row of a nonce that is taken is left alone
  | postgres =>
    cases ht : store challenge.record.nonce with
    | some _ =>
      rw [ht] at h
      exact Or.inr h
    | none =>
      rw [ht] at h
      exact hu h

theorem stored_of_take (h : (take persistence now nonce' store).2 nonce = some challenge) :
    store nonce = some challenge := by
  have hu : Function.update store nonce' none nonce = some challenge →
      store nonce = some challenge := by
    intro hs
    by_cases hn : nonce = nonce'
    · subst hn
      rw [Function.update_self] at hs
      cases hs
    · rw [Function.update_of_ne hn] at hs
      exact hs
  unfold take at h
  split at h
  · exact h
  · -- the memory store deletes in any case, the table only what has not expired
    cases persistence with
    | memory => exact hu h
    | postgres =>
      dsimp only at h
      split at h
      · exact hu h
      · exact h

theorem take_eq_some (h : (take persistence now nonce store).1 = some challenge) :
    store nonce = some challenge ∧ nowSeconds now ≤ challenge.record.expiresAt ∧
      (take persistence now nonce store).2 nonce = none := by
  unfold take at h ⊢
  cases hs : store nonce with
  | none =>
    rw [hs] at h
    cases h
  | some stored =>
    rw [hs] at h
    cases persistence with
    | memory =>
      dsimp only at h ⊢
      split at h
      · cases h
      · next hex =>
        cases h
        exact ⟨rfl, Int.not_lt.mp hex, Function.update_self _ _ _⟩
    | postgres =>
      dsimp only at h ⊢
      split at h
      · next hl =>
        cases h
        rw [if_pos hl]
        refine ⟨rfl, ?_, Function.update_self _ _ _⟩
        -- the table compares microseconds, and the bound is in whole seconds
        unfold nowSeconds
        omega
      · cases h

theorem stored_of_evictExpired (h : evictExpired now store nonce = some challenge) :
    store nonce = some challenge := by
  unfold evictExpired at h
  split at h
  · cases h
  · next hs =>
    split at h
    · cases h
    · rw [hs]
      exact h

end ChallengeStore

end AcdpControlPlane
