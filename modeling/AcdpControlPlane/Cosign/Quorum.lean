import AcdpControlPlane.Common.Multibase
import AcdpControlPlane.Cosign.Cosignature

/-!
# Quorum consumption

How many trusted witnesses attest a checkpoint, over the cosignatures its registry serves beside
it: `consumeQuorumSafe` of `src/audit/checkpoint-witness.service.ts` resolves a key for each
trusted witness, and `hostEvaluateQuorum` of `src/audit/cosign.ts` counts the witnesses with a
cosignature that verifies under that key. Both loop over the same array.
-/

namespace AcdpControlPlane

/-! ## Inputs and results -/

structure QuorumPolicy where
  enabled : Bool
  trusted : List String
  minWitnesses : Int
  maxAgeSeconds : Option Int
  maxClockSkewSeconds : Int

/-- A resolved witness key; it is historical when it left `assertionMethod`. -/
structure ResolvedWitnessKey where
  publicKeyB64 : String
  historical : Bool
deriving DecidableEq, Repr

/-- What the evaluation reads from outside: the clock, the date parser and the DID resolver, whose
every failure is a throw. -/
structure QuorumEnv where
  dateParse : String → Option Int
  resolveWitnessKey : String → Except JsError ResolvedWitnessKey
  nowMs : Int

structure QuorumReport where
  witnessedCount : ℕ
  meetsQuorum : Bool
  verifiedWitnessIds : List String
  failures : List String
  freshWitnessedCount : ℕ
  meetsFreshQuorum : Bool
  historicalWitnessedCount : ℕ

/-- The quorum of a witnessed head; all fields are `null` when it was not evaluated. -/
structure QuorumResult where
  witnessedCount : Option ℕ
  meetsQuorum : Option Bool
  freshWitnessedCount : Option ℕ
  meetsFreshQuorum : Option Bool
  historicalWitnessedCount : Option ℕ
deriving DecidableEq, Repr

def QuorumResult.null : QuorumResult := ⟨none, none, none, none, none⟩

/-- The keys resolved so far, and the witnesses whose key is historical. -/
structure WitnessKeys where
  witnessKeysB64 : List (String × String)
  historicalWitnessIds : List String

def WitnessKeys.empty : WitnessKeys := ⟨[], []⟩

def WitnessKeys.key (ks : WitnessKeys) (witnessId : String) : Option String :=
  ks.witnessKeysB64.lookup witnessId

def WitnessKeys.insert (ks : WitnessKeys) (witnessId : String) (resolved : ResolvedWitnessKey) :
    WitnessKeys :=
  ⟨(witnessId, resolved.publicKeyB64) :: ks.witnessKeysB64,
    if resolved.historical then witnessId :: ks.historicalWitnessIds else ks.historicalWitnessIds⟩

@[simp] theorem WitnessKeys.key_insert_self (ks : WitnessKeys) (witnessId : String)
    (resolved : ResolvedWitnessKey) :
    (ks.insert witnessId resolved).key witnessId = some resolved.publicKeyB64 := by
  simp [WitnessKeys.insert, WitnessKeys.key]

theorem WitnessKeys.key_insert_of_ne (ks : WitnessKeys) {witnessId other : String}
    (resolved : ResolvedWitnessKey) (hn : other ≠ witnessId) :
    (ks.insert witnessId resolved).key other = ks.key other := by
  have hb : (other == witnessId) = false := beq_false_of_ne hn
  rw [WitnessKeys.insert, WitnessKeys.key, List.lookup_cons, hb, WitnessKeys.key]

@[simp] theorem WitnessKeys.mem_historical_insert (ks : WitnessKeys) {witnessId other : String}
    (resolved : ResolvedWitnessKey) :
    other ∈ (ks.insert witnessId resolved).historicalWitnessIds ↔
      (resolved.historical = true ∧ other = witnessId) ∨ other ∈ ks.historicalWitnessIds := by
  rw [WitnessKeys.insert]
  cases resolved.historical <;> simp

def addToSet (s : List String) (x : String) : List String := if x ∈ s then s else s ++ [x]

@[simp] theorem mem_addToSet {s : List String} {x y : String} : y ∈ addToSet s x ↔ y ∈ s ∨ y = x := by
  unfold addToSet
  by_cases hx : x ∈ s
  · rw [if_pos hx]
    exact ⟨Or.inl, fun hy => hy.elim id fun heq => heq ▸ hx⟩
  · simp [hx]

theorem nodup_addToSet {s : List String} (hs : s.Nodup) (x : String) : (addToSet s x).Nodup := by
  unfold addToSet
  by_cases hx : x ∈ s
  · rwa [if_pos hx]
  · rw [if_neg hx]
    exact List.concat_eq_append ▸ hs.concat hx

section Evaluate

variable (env : QuorumEnv)

/-- The loop `for (const raw of cosignatures)` whose body first parses its element. -/
def forParsed {σ : Type} (step : σ → Except String LogCosignature → σ) :
    List Json → σ → Except JsError σ
  | [], s => .ok s
  | raw :: rest, s => do
    let parsed ← parseCosignature env.dateParse raw
    forParsed step rest (step s parsed)

/-- The key of a witness, from a cosignature that names it: a `did:key` is its own key, a `did:web`
resolves the key id of the cosignature. -/
def witnessKeyOf (cosig : LogCosignature) : Option ResolvedWitnessKey :=
  if startsWith cosig.witnessId "did:key:" then
    match decodeEd25519Multibase cosig.witnessId with
    | .ok publicKey => some ⟨toBase64 publicKey, false⟩
    | .error _ => none
  else
    match env.resolveWitnessKey cosig.signature.keyId with
    | .ok resolved => some resolved
    | .error _ => none

/-- One element of the loop of `consumeQuorumSafe`. -/
def keyStep (trusted : List String) (ks : WitnessKeys) :
    Except String LogCosignature → WitnessKeys
  | .error _ => ks
  | .ok cosig =>
    if cosig.witnessId ∉ trusted then ks
    else if (ks.key cosig.witnessId).isSome then ks
    else
      match witnessKeyOf env cosig with
      | some resolved => ks.insert cosig.witnessId resolved
      | none => ks

/-- The loop of `consumeQuorumSafe`: a trusted witness gets its key from the first cosignature
that names it and resolves. -/
def resolveWitnessKeys (trusted : List String) (witnessSignatures : List Json) :
    Except JsError WitnessKeys :=
  forParsed env (keyStep env trusted) witnessSignatures .empty

def tupleMatches (cosig : LogCosignature) (checkpoint : LogCheckpoint) : Bool :=
  cosig.witnessedCheckpoint.logId == checkpoint.logId &&
    cosig.witnessedCheckpoint.treeSize == checkpoint.treeSize &&
    cosig.witnessedCheckpoint.rootHash == checkpoint.rootHash

structure QuorumInputs where
  checkpoint : LogCheckpoint
  trustedWitnessIds : List String
  witnessKeys : WitnessKeys
  minWitnesses : Int
  maxAgeSecs : Option Int
  maxClockSkewMs : Int

variable (verify : LogCosignature → String → CosignOutcome) (inp : QuorumInputs)

/-- The checks both loops make of a cosignature once its witness has a key: the tuple, the clock
and the signature. The last is `verifyCosignature`, of the binding or of the host. -/
def attest (key : String) (cosig : LogCosignature) : Except String Unit :=
  if !tupleMatches cosig inp.checkpoint then
    .error " cosigned a different tuple than the verified checkpoint"
  else
    match cosignatureFreshnessOk env.dateParse cosig env.nowMs inp.maxClockSkewMs with
    | .error e => .error (": " ++ e.reason)
    | .ok () =>
      match verify cosig key with
      | .error e => .error (": " ++ e.reason)
      | .ok () => .ok ()

/-- One element of the loop of `countHistoricalWitnesses`. -/
def historicalStep (counted : List String) : Except String LogCosignature → List String
  | .error _ => counted
  | .ok cosig =>
    if cosig.witnessId ∉ inp.witnessKeys.historicalWitnessIds ∨ cosig.witnessId ∈ counted then
      counted
    else
      match inp.witnessKeys.key cosig.witnessId with
      | none => counted
      | some key =>
        match attest env verify inp key cosig with
        | .error _ => counted
        | .ok () => addToSet counted cosig.witnessId

def countHistoricalWitnesses (cosignatures : List Json) : Except JsError (List String) :=
  if inp.witnessKeys.historicalWitnessIds.length = 0 then .ok []
  else forParsed env (historicalStep env verify inp) cosignatures []

structure QuorumSets where
  verified : List String
  freshVerified : List String
  failures : List String

def QuorumSets.empty : QuorumSets := ⟨[], [], []⟩

def QuorumSets.fail (s : QuorumSets) (reason : String) : QuorumSets :=
  { s with failures := s.failures ++ [reason] }

/-- One element of the loop of `hostEvaluateQuorum`. -/
def quorumStep (s : QuorumSets) : Except String LogCosignature → QuorumSets
  | .error reason => s.fail reason
  | .ok cosig =>
    -- untrusted witnesses are silently ignored, historical ones are counted apart
    if cosig.witnessId ∉ inp.trustedWitnessIds then s
    else if cosig.witnessId ∈ inp.witnessKeys.historicalWitnessIds then s
    else if cosig.witnessId ∈ s.verified then s
    else
      match inp.witnessKeys.key cosig.witnessId with
      | none => s.fail ("witness '" ++ cosig.witnessId ++ "' key unresolved")
      | some key =>
        match attest env verify inp key cosig with
        | .error reason => s.fail ("witness '" ++ cosig.witnessId ++ "'" ++ reason)
        | .ok () =>
          { s with
            verified := addToSet s.verified cosig.witnessId
            freshVerified :=
              if cosignatureAgeOk env.dateParse cosig env.nowMs inp.maxAgeSecs then
                addToSet s.freshVerified cosig.witnessId
              else s.freshVerified }

/-- The sets that `hostEvaluateQuorum` counts: of its own loop, and of the historical one. -/
def quorumSets (cosignatures : List Json) : Except JsError (QuorumSets × List String) := do
  let s ← forParsed env (quorumStep env verify inp) cosignatures .empty
  let historical ← countHistoricalWitnesses env verify inp cosignatures
  return (s, historical)

def hostEvaluateQuorum (cosignatures : List Json) : Except JsError QuorumReport :=
  (quorumSets env verify inp cosignatures).map fun (s, historical) => {
    witnessedCount := s.verified.length
    meetsQuorum := inp.minWitnesses ≤ s.verified.length
    verifiedWitnessIds := s.verified
    failures := s.failures
    freshWitnessedCount := s.freshVerified.length
    meetsFreshQuorum := inp.minWitnesses ≤ s.freshVerified.length
    historicalWitnessedCount := historical.length }

end Evaluate

/-- The evaluation inputs that `consumeQuorumSafe` builds from the keys it resolved. -/
def quorumInputs (policy : QuorumPolicy) (checkpoint : LogCheckpoint) (ks : WitnessKeys) :
    QuorumInputs where
  checkpoint := checkpoint
  trustedWitnessIds := policy.trusted
  witnessKeys := ks
  minWitnesses := policy.minWitnesses
  maxAgeSecs := policy.maxAgeSeconds
  maxClockSkewMs := policy.maxClockSkewSeconds * 1000

section Consume

variable (env : QuorumEnv) (crypto : Crypto) (policy : QuorumPolicy) (checkpoint : LogCheckpoint)
  (witnessSignatures : List Json)

/-- Quorum consumption: no counts when it is disabled, and none when the evaluation throws. -/
def consumeQuorumSafe : QuorumResult :=
  if !policy.enabled then .null
  else
    let report := do
      let ks ← resolveWitnessKeys env policy.trusted witnessSignatures
      hostEvaluateQuorum env (tsVerifyCosignature crypto) (quorumInputs policy checkpoint ks)
        witnessSignatures
    match report with
    | .ok report =>
      ⟨some report.witnessedCount, some report.meetsQuorum, some report.freshWitnessedCount,
        some report.meetsFreshQuorum, some report.historicalWitnessedCount⟩
    | .error _ => .null

/-- The witnesses behind `witnessedCount` and `historicalWitnessedCount`. -/
def countedWitnesses : List String × List String :=
  if !policy.enabled then ([], [])
  else
    let sets := do
      let ks ← resolveWitnessKeys env policy.trusted witnessSignatures
      quorumSets env (tsVerifyCosignature crypto) (quorumInputs policy checkpoint ks)
        witnessSignatures
    match sets with
    | .ok (s, historical) => (s.verified, historical)
    | .error _ => ([], [])

theorem consumeQuorumSafe_counts :
    (consumeQuorumSafe env crypto policy checkpoint witnessSignatures).witnessedCount.getD 0 =
        (countedWitnesses env crypto policy checkpoint witnessSignatures).1.length ∧
      (consumeQuorumSafe env crypto policy checkpoint
          witnessSignatures).historicalWitnessedCount.getD 0 =
        (countedWitnesses env crypto policy checkpoint witnessSignatures).2.length := by
  unfold consumeQuorumSafe countedWitnesses
  by_cases hen : policy.enabled = true
  · simp only [hen, Bool.not_true, Bool.false_eq_true, if_false]
    cases resolveWitnessKeys env policy.trusted witnessSignatures with
    | error e => exact ⟨rfl, rfl⟩
    | ok ks =>
      simp only [bind, Except.bind, hostEvaluateQuorum]
      cases quorumSets env (tsVerifyCosignature crypto) (quorumInputs policy checkpoint ks)
          witnessSignatures with
      | error e => exact ⟨rfl, rfl⟩
      | ok sets => exact ⟨rfl, rfl⟩
  · simp [hen, QuorumResult.null]

end Consume

end AcdpControlPlane
