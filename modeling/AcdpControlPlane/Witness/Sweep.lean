import AcdpControlPlane.Common.DidAuthority
import AcdpControlPlane.Common.Federation
import AcdpControlPlane.Witness.Store

/-!
# The checkpoint witness

One sweep of `src/audit/checkpoint-witness.service.ts`. Witnessing a registry fetches its signed
tree head, verifies it against the retained head of the cursor, and ends in one of a fixed set of
exits; everything it writes, it writes at the exit. The model follows that split: `witnessVerdict`
computes the exit from the responses and the cursor, and `enact` performs its writes in the order
of the source.
-/

namespace AcdpControlPlane

def INVALID_LOG_PROOF : String := "INVALID_LOG_PROOF"

/-! ## The outside -/

structure WitnessConfig where
  logWitnessExcludeAuthorities : List String
  quorum : QuorumPolicy
  cosigningEnabled : Bool
  signer : Option WitnessSigner

/-- The binding, `node:crypto` and `Date.parse`. -/
structure Sdk where
  crypto : Crypto
  hasher : Merkle.Hasher Digest
  logSurface : Option LogSurface
  cosignSurface : Option CosignSurface
  stripFragment : String → String
  dateParse : String → Option Int

/-- The faults of the statements of one pass over a registry. -/
structure DbFaults where
  getCursor : Option JsError
  recordCheckpoint : Fault
  updateQuorum : Fault
  advanceCursor : Fault
  markAlert : Fault
  markFailure : Fault
  recordCosignature : Fault

/-- What one pass over a registry meets outside. -/
structure RegistryEnv where
  nowMs : Int
  now : String
  witnessedAt : String
  advertisesTransparencyLog : Except JsError (Option Bool)
  registryBaseUrl : Except JsError (Option String)
  get : String → Except JsError FederationResponse
  resolveReceiptKey : String → Except JsError String
  resolveWitnessKey : String → Except JsError ResolvedWitnessKey
  faults : DbFaults

inductive WitnessStatus where
  | witnessed
  | skipped
  | alert
  | error
deriving DecidableEq, Repr

structure WitnessOutcome where
  authority : String
  status : WitnessStatus
  reason : Option String
deriving DecidableEq, Repr

/-! ## Exits -/

structure Evidence where
  checkpoint : LogCheckpoint
  signatureValid : Bool
  consistencyOk : Option Bool
  quorum : QuorumResult

/-- How a pass over a registry ends. -/
inductive Verdict where
  | skipped (reason : String)
  | failure (reason : String)
  | alert (evidence : Option Evidence) (reason : WitnessAlertReason)
      (detail : List (String × Json))
  | witnessed (evidence : Option Evidence) (checkpoint : LogCheckpoint)
  | crash (err : JsError)

def LogCheckpoint.head (checkpoint : LogCheckpoint) : Head :=
  ⟨checkpoint.logId, checkpoint.treeSize, checkpoint.rootHash⟩

def LogCheckpoint.toJson (checkpoint : LogCheckpoint) : Json :=
  .obj [("checkpoint_version", .str "acdp-log/1"), ("log_id", .str checkpoint.logId),
    ("tree_size", .num (JsNumber.ofNat checkpoint.treeSize)),
    ("root_hash", .str checkpoint.rootHash), ("timestamp", .str checkpoint.timestamp),
    ("signature", .obj [("algorithm", .str checkpoint.signature.algorithm),
      ("key_id", .str checkpoint.signature.keyId), ("value", .str checkpoint.signature.value)])]

def Head.toJson (head : Head) : Json :=
  .obj [("log_id", .str head.logId), ("tree_size", .num (JsNumber.ofNat head.size)),
    ("root_hash", .str head.root)]

/-- Split a response of `/log/checkpoint` into the checkpoint and the cosignatures beside it. -/
def unwrapCheckpointEnvelope (raw : Json) : Json × List Json :=
  match raw with
  | .obj o =>
    match Json.get o "log_checkpoint", Json.get o "witness_signatures" with
    | some checkpoint, some (.arr signatures) => (checkpoint, signatures)
    | some checkpoint, some _ => (checkpoint, [])
    | _, _ => (raw, [])
  | _ => (raw, [])

section Verdicts

variable (sdk : Sdk) (cfg : WitnessConfig) (env : RegistryEnv)

/-- The log id and the signing key must belong to the authority: the error, if they do not. -/
def checkRegistryBinding (checkpoint : LogCheckpoint) (expectedDid : String) : Option String :=
  let logDid := logIdRegistryDid checkpoint.logId
  if logDid ≠ some expectedDid then
    some ("log_id registry DID '" ++ logDid.getD "" ++ "' != '" ++ expectedDid ++
      "' (the authority the checkpoint was fetched from)")
  else if sdk.stripFragment checkpoint.signature.keyId ≠ expectedDid then
    some ("signature.key_id '" ++ checkpoint.signature.keyId ++ "' is not a key of '" ++
      expectedDid ++ "'")
  else none

/-- The base URL of an enrollment, or of the registry row. An empty text counts as none. -/
def resolveBaseUrl (enrollment : RegistryEnrollment) : Except JsError (Option String) :=
  match enrollment.baseUrl with
  | some url => if url ≠ "" then .ok (some (trimSlash url)) else known
  | none => known
where
  known : Except JsError (Option String) :=
    env.registryBaseUrl.map fun
      | some url => if url ≠ "" then some (trimSlash url) else none
      | none => none

def sizesText (first second : ℕ) : String := toString first ++ "→" ++ toString second

/-- What is wrong with a consistency proof before it is folded. -/
def proofShapeError (prior : Head) (checkpoint : LogCheckpoint) (proof : ConsistencyProof) :
    Option String :=
  if proof.logId ≠ checkpoint.logId then
    some ("proof log_id '" ++ proof.logId ++ "' != checkpoint log_id '" ++ checkpoint.logId ++ "'")
  else if proof.firstTreeSize ≠ prior.size ∨ proof.secondTreeSize ≠ checkpoint.treeSize then
    some ("proof sizes " ++ sizesText proof.firstTreeSize proof.secondTreeSize ++
      " do not match the demanded " ++ sizesText prior.size checkpoint.treeSize)
  else none

def foldVerdict (prior : Head) (checkpoint : LogCheckpoint)
    (parsed : Except String ConsistencyProof) : VerifyOutcome :=
  match parsed with
  | .error reason => .error reason
  | .ok proof =>
    match proofShapeError prior checkpoint proof with
    | some reason => .error reason
    | none => verifyConsistency sdk.hasher sdk.logSurface proof checkpoint prior.root

/-- The members of an alert about a checkpoint that follows a retained head. -/
def growthDetail (prior : Head) (checkpoint : LogCheckpoint) (error : String) :
    List (String × Json) :=
  [("code", .str INVALID_LOG_PROOF), ("error", .str error), ("previous", prior.toJson),
    ("checkpoint", checkpoint.toJson)]

/-- `verifyGrowth`: the tree at the retained size must be a prefix of the new tree. -/
def growthVerdict (baseUrl : String) (prior : Head) (checkpoint : LogCheckpoint)
    (quorum : QuorumResult) : Verdict :=
  let sizes := sizesText prior.size checkpoint.treeSize
  let evidence : Evidence := ⟨checkpoint, true, some false, .null⟩
  match env.get (baseUrl ++ "/log/proof?first=" ++ toString prior.size ++ "&second=" ++
      toString checkpoint.treeSize) with
  | .error err => .failure ("consistency proof fetch failed: " ++ err.message)
  | .ok resp =>
    if !resp.isSuccess then
      .alert (some evidence) .consistency_failed (growthDetail prior checkpoint
        ("registry refused the REQUIRED consistency proof (HTTP " ++ toString resp.status ++
          ") for " ++ sizes))
    else
      match resp.json with
      | .error err => .failure ("consistency proof fetch failed: " ++ err.message)
      | .ok proofRaw =>
        let parsed := parseConsistencyProof proofRaw
        match foldVerdict sdk prior checkpoint parsed with
        | .error reason =>
          .alert (some evidence) .consistency_failed (growthDetail prior checkpoint
            ("consistency proof " ++ sizes ++ " failed: " ++ reason) ++
            [("consistency_path", match parsed with
              | .ok proof => .arr (proof.consistencyPath.map .str)
              | .error _ => .null)])
        | .ok () => .witnessed (some ⟨checkpoint, true, some true, quorum⟩) checkpoint

/-- The state machine against the retained cursor. -/
def cursorVerdict (baseUrl : String) (prior : Option Head) (checkpoint : LogCheckpoint)
    (quorum : QuorumResult) : Verdict :=
  match prior with
  | none => .witnessed (some ⟨checkpoint, true, none, quorum⟩) checkpoint
  | some prior =>
    if checkpoint.logId ≠ prior.logId then
      .alert (some ⟨checkpoint, true, none, .null⟩) .log_id_changed
        [("error", .str ("log instantiation changed from '" ++ prior.logId ++ "' to '" ++
          checkpoint.logId ++ "' (RFC-ACDP-0012 §7.4 reset)")), ("previous", prior.toJson),
          ("checkpoint", checkpoint.toJson)]
    else if checkpoint.treeSize < prior.size then
      .alert (some ⟨checkpoint, true, some false, .null⟩) .tree_size_regression
        (growthDetail prior checkpoint ("tree_size regressed from " ++ toString prior.size ++
          " to " ++ toString checkpoint.treeSize ++
          " — an append-only log can never shrink (§5.3)"))
    else if checkpoint.treeSize = prior.size then
      if checkpoint.rootHash ≠ prior.root then
        .alert (some ⟨checkpoint, true, some false, .null⟩) .root_mismatch
          (growthDetail prior checkpoint ("root_hash changed at unchanged tree_size " ++
            toString prior.size ++ " — signed split-view/equivocation evidence"))
      else
        -- an unchanged head is recorded again only for the sake of its quorum
        .witnessed (if quorum.witnessedCount.isSome then some ⟨checkpoint, true, none, quorum⟩
          else none) checkpoint
    else growthVerdict sdk env baseUrl prior checkpoint quorum

/-- The members of an alert about a checkpoint by itself. -/
def checkpointDetail (error : String) (checkpoint : Json) : List (String × Json) :=
  [("code", .str INVALID_LOG_PROOF), ("error", .str error), ("checkpoint", checkpoint)]

def RegistryEnv.quorumEnv : QuorumEnv := ⟨sdk.dateParse, env.resolveWitnessKey, env.nowMs⟩

/-- The pass from a parsed checkpoint on: binding, clock, signature, quorum, cursor. -/
def checkpointVerdict (enrollment : RegistryEnrollment)
    (cursor : Except JsError (Option LogWitnessCursor)) (baseUrl : String)
    (checkpoint : LogCheckpoint) (witnessSignatures : List Json) : Verdict :=
  match authorityToDidWeb enrollment.authority with
  | none => .failure ("unverified: " ++ nonCanonicalAuthorityReason enrollment.authority)
  | some expectedDid =>
    match checkRegistryBinding sdk checkpoint expectedDid with
    | some bindingError =>
      .alert none .checkpoint_invalid (checkpointDetail bindingError checkpoint.toJson)
    | none =>
      match checkpointTimestampOk sdk.dateParse checkpoint env.nowMs with
      | .error reason => .alert none .checkpoint_invalid (checkpointDetail reason checkpoint.toJson)
      | .ok () =>
        match env.resolveReceiptKey checkpoint.signature.keyId with
        | .error err => .failure ("receipt key resolution failed: " ++ err.message)
        | .ok registryKeyB64 =>
          match verifyCheckpointSignature sdk.crypto checkpoint registryKeyB64 with
          | .error reason =>
            .alert (some ⟨checkpoint, false, none, .null⟩) .checkpoint_signature_invalid
              (checkpointDetail reason checkpoint.toJson)
          | .ok () =>
            let quorum := consumeQuorumSafe (env.quorumEnv sdk) sdk.crypto cfg.quorum checkpoint
              witnessSignatures
            match cursor with
            | .error err => .crash err
            | .ok cursor =>
              cursorVerdict sdk env baseUrl (cursor.bind LogWitnessCursor.head) checkpoint quorum

/-- The exit of a pass over a registry, from the responses and the cursor row. -/
def witnessVerdict (enrollment : RegistryEnrollment)
    (cursor : Except JsError (Option LogWitnessCursor)) : Verdict :=
  if enrollment.authority ∈ cfg.logWitnessExcludeAuthorities then
    .skipped "excluded by LOG_WITNESS_EXCLUDE_AUTHORITIES"
  else
    match env.advertisesTransparencyLog with
    | .error err => .crash err
    | .ok none => .skipped "capabilities unreadable"
    | .ok (some false) => .skipped "registry does not advertise acdp-registry-transparency-log"
    | .ok (some true) =>
      match resolveBaseUrl env enrollment with
      | .error err => .crash err
      | .ok none => .failure "no base_url known"
      | .ok (some baseUrl) =>
        if baseUrl = "" then .failure "no base_url known"
        else
          match env.get (baseUrl ++ "/log/checkpoint") with
          | .error err => .failure ("checkpoint fetch failed: " ++ err.message)
          | .ok resp =>
            if !resp.isSuccess then
              .failure ("/log/checkpoint returned HTTP " ++ toString resp.status)
            else
              match resp.json with
              | .error err => .failure ("checkpoint fetch failed: " ++ err.message)
              | .ok body =>
                let (checkpointRaw, witnessSignatures) := unwrapCheckpointEnvelope body
                match parseCheckpoint sdk.dateParse checkpointRaw with
                | .error err => .crash err
                | .ok (.error reason) =>
                  .alert none .checkpoint_invalid (checkpointDetail reason checkpointRaw)
                | .ok (.ok checkpoint) =>
                  checkpointVerdict sdk cfg env enrollment cursor baseUrl checkpoint
                    witnessSignatures

/-! ## Writes -/

variable (tenantId authority : String)

def recordFailureSafe (db : Db) : Db :=
  (env.faults.markFailure.run db (markFailure tenantId authority env.now)).2

/-- Record a checkpoint, and refresh its quorum when it was there; a failing write is swallowed. -/
def persistCheckpointSafe (evidence : Evidence) (db : Db) : Db :=
  let row : LogWitnessCheckpoint := ⟨tenantId, authority, evidence.checkpoint,
    evidence.signatureValid, evidence.consistencyOk, evidence.quorum⟩
  match env.faults.recordCheckpoint.run db (recordCheckpoint row) with
  | (.ok false, db) =>
    if evidence.quorum.witnessedCount.isSome ∧ evidence.quorum.meetsQuorum.isSome ∧
        evidence.quorum.freshWitnessedCount.isSome ∧ evidence.quorum.meetsFreshQuorum.isSome ∧
        evidence.quorum.historicalWitnessedCount.isSome then
      (env.faults.updateQuorum.run db (updateQuorum row.key evidence.quorum)).2
    else db
  | (_, db) => db

def persistEvidence (evidence : Option Evidence) (db : Db) : Db :=
  match evidence with
  | some evidence => persistCheckpointSafe env tenantId authority evidence db
  | none => db

/-- Mark the cursor alerted, and emit on the transition into the alert or to another reason. -/
def raiseAlert (reason : WitnessAlertReason) (detail : List (String × Json)) (db : Db) :
    Except JsError WitnessOutcome × Db :=
  match env.faults.markAlert.run db (markAlert tenantId authority reason (.obj detail) env.now) with
  | (.error err, db) => (.error err, db)
  | (.ok (wasAlerted, previousReason), db) =>
    let isTransition := !wasAlerted ∨ previousReason ≠ some reason
    let logId := match Json.get detail "checkpoint" with
      | some (.obj checkpoint) => Json.strOf (Json.get checkpoint "log_id")
      | _ => none
    let event : AlertEvent := ⟨tenantId, authority, reason, logId, env.now, .obj detail⟩
    (.ok ⟨authority, .alert, some reason.text⟩,
      if isTransition then { db with alerts := db.alerts ++ [event] } else db)

/-- Mint and record a cosignature of the checkpoint; a failing write is swallowed. -/
def cosignSafe (checkpoint : LogCheckpoint) (db : Db) : Db :=
  match cfg.signer with
  | none => db
  | some signer =>
    if !cfg.cosigningEnabled then db
    else
      match mintCosignature sdk.cosignSurface sdk.crypto
          ⟨checkpoint.logId, checkpoint.treeSize, checkpoint.rootHash, checkpoint.timestamp⟩
          env.witnessedAt signer with
      | .error _ => db
      | .ok (cosig, hash) =>
        (env.faults.recordCosignature.run db
          (recordCosignature ⟨tenantId, authority, cosig, hash⟩)).2

def enact (verdict : Verdict) (db : Db) : Except JsError WitnessOutcome × Db :=
  match verdict with
  | .skipped reason => (.ok ⟨authority, .skipped, some reason⟩, db)
  | .failure reason =>
    (.ok ⟨authority, .error, some reason⟩, recordFailureSafe env tenantId authority db)
  | .alert evidence reason detail =>
    raiseAlert env tenantId authority reason detail
      (persistEvidence env tenantId authority evidence db)
  | .witnessed evidence checkpoint =>
    -- the head is retained before it is cosigned, and not cosigned unless it is retained
    match env.faults.advanceCursor.run (persistEvidence env tenantId authority evidence db)
        (advanceCursor tenantId authority checkpoint.head env.now) with
    | (.error err, db) => (.error err, db)
    | (.ok (), db) =>
      (.ok ⟨authority, .witnessed, none⟩,
        cosignSafe sdk cfg env tenantId authority checkpoint db)
  | .crash err => (.error err, db)

end Verdicts

def witnessRegistry (sdk : Sdk) (cfg : WitnessConfig) (env : RegistryEnv)
    (enrollment : RegistryEnrollment) (db : Db) : Except JsError WitnessOutcome × Db :=
  let cursor := match env.faults.getCursor with
    | some err => .error err
    | none => .ok (db.cursors enrollment.tenantId enrollment.authority)
  enact sdk cfg env enrollment.tenantId enrollment.authority
    (witnessVerdict sdk cfg env enrollment cursor) db

/-! ## A sweep -/

structure SweepEnv where
  acquired : Bool
  listFault : Option JsError
  registry : String → RegistryEnv
  crashNow : String → String
  crashFault : String → Fault

def sweepRegistry (sdk : Sdk) (cfg : WitnessConfig) (env : SweepEnv)
    (enrollment : RegistryEnrollment) (db : Db) : WitnessOutcome × Db :=
  match witnessRegistry sdk cfg (env.registry enrollment.authority) enrollment db with
  | (.ok outcome, db) => (outcome, db)
  | (.error err, db) =>
    (⟨enrollment.authority, .error, some err.message⟩,
      ((env.crashFault enrollment.authority).run db
        (markFailure enrollment.tenantId enrollment.authority
          (env.crashNow enrollment.authority))).2)

def sweepAll (sdk : Sdk) (cfg : WitnessConfig) (env : SweepEnv) :
    List RegistryEnrollment → Db → List WitnessOutcome × Db
  | [], db => ([], db)
  | enrollment :: rest, db =>
    let (outcome, db) := sweepRegistry sdk cfg env enrollment db
    let (outcomes, db) := sweepAll sdk cfg env rest db
    (outcome :: outcomes, db)

def sweep (sdk : Sdk) (cfg : WitnessConfig) (env : SweepEnv) (db : Db) :
    Except JsError (List WitnessOutcome) × Db :=
  if !env.acquired then (.ok [], db)
  else
    match env.listFault with
    | some err => (.error err, db)
    | none =>
      let (outcomes, db) := sweepAll sdk cfg env db.enrollments.listAllEnabled db
      (.ok outcomes, db)

end AcdpControlPlane
