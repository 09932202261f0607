import AcdpControlPlane.Common.DidAuthority
import AcdpControlPlane.Log.Wire
import AcdpControlPlane.Merkle.Climb

/-!
# Transparency-log verification

The closed parse of a checkpoint, its registry signature and timestamp, and the folds of inclusion
and consistency proofs, as `src/audit/log-verify.ts` computes them. JSON canonicalization, SHA-256
and Ed25519 come from outside and are the fields of `Crypto`; the interior-node hash is that of a
`Merkle.Hasher`.
-/

namespace AcdpControlPlane

/-- The outcome of a verification: accepted, or refused with a reason. -/
abbrev VerifyOutcome := Except String Unit

def CHECKPOINT_MAX_FUTURE_SKEW_MS : Int := 120000

/-- What the folds take from the `acdp` binding and from `node:crypto`. -/
structure Crypto where
  canonicalize : Json → Option String
  sha256Hex : String → String
  verifySignatureB64 : String → String → String → Bool

/-! ## Checkpoints -/

structure Signature where
  algorithm : String
  keyId : String
  value : String
deriving DecidableEq, Repr

/-- A signed tree head, past the closed parse. -/
structure LogCheckpoint where
  logId : String
  treeSize : ℕ
  rootHash : String
  timestamp : String
  signature : Signature
deriving DecidableEq, Repr

/-- The characters of `LOG_ID_AUTHORITY`. -/
def isAuthorityChar (c : Char) : Bool :=
  c.isAlphanum || c == '.' || c == '%' || c == ':' || c == '-'

/-- The characters of `LOG_ID_INSTANCE`. -/
def isInstanceChar (c : Char) : Bool := c.isLower || c.isDigit || c == '-'

/-- The registry DID embedded in a log id: the capture of
`/^(did:web:[a-zA-Z0-9.%:-]+)\/log\/[a-z0-9-]{1,32}$/`. The authority has no `/`, so it ends at
the first character outside its class. -/
def logIdRegistryDid (logId : String) : Option String :=
  if startsWith logId "did:web:" then
    let rest := logId.toList.drop 8
    let authority := rest.takeWhile isAuthorityChar
    let tail := rest.dropWhile isAuthorityChar
    let inst := tail.drop 5
    if authority ≠ [] ∧ "/log/".toList.isPrefixOf tail ∧ 1 ≤ inst.length ∧ inst.length ≤ 32 ∧
        inst.all isInstanceChar then
      some ("did:web:" ++ String.ofList authority)
    else none
  else none

/-- The test `LOG_ID_RE`. -/
def isLogId (logId : String) : Bool := (logIdRegistryDid logId).isSome

/-- The DID of an authority determines it, by decoding, and so does the log id of a checkpoint:
its registry DID is that of one authority at most. -/
theorem didWeb_determines_authority :
    (∀ a b did, authorityToDidWeb a = some did → authorityToDidWeb b = some did → a = b) ∧
    (∀ a did, authorityToDidWeb a = some did → didWebToAuthority did = some a) ∧
    ∀ logId a b, isLogId logId = true → logIdRegistryDid logId = authorityToDidWeb a →
      logIdRegistryDid logId = authorityToDidWeb b → a = b := by
  refine ⟨fun _ _ _ => authorityToDidWeb_injective,
    fun _ _ => didWebToAuthority_authorityToDidWeb, ?_⟩
  intro logId a b hl ha hb
  obtain ⟨did, hd⟩ := Option.isSome_iff_exists.mp hl
  exact authorityToDidWeb_injective (ha.symm.trans hd) (hb.symm.trans hd)

/-- The test `CANONICAL_TS_RE`: `dddd-dd-ddTdd:dd:dd.dddZ`. -/
def isCanonicalTimestamp (ts : String) : Bool :=
  let pattern := "dddd-dd-ddTdd:dd:dd.dddZ".toList
  ts.toList.length == pattern.length &&
    (ts.toList.zip pattern).all fun (c, p) => if p = 'd' then c.isDigit else c == p

/-- The names of a closed object that are not expected, and the expected ones it lacks. -/
def closedMismatch (o : List (String × Json)) (expected : List String) :
    List String × List String :=
  ((Json.keys o).filter (!expected.contains ·), expected.filter (!(Json.keys o).contains ·))

/-- The text `String(o[k])` of a member that is present. -/
def memberText (o : List (String × Json)) (k : String) : Except JsError String :=
  match Json.get o k with
  | some v => v.toJsString
  | none => .ok "undefined"

/-- The closed `algorithm`, `key_id`, `value` object. -/
def parseSignature : Option Json → Except String Signature
  | some (.obj s) =>
    match Json.strOf (Json.get s "algorithm"), Json.strOf (Json.get s "key_id"),
        Json.strOf (Json.get s "value") with
    | some algorithm, some keyId, some value =>
      if sortedKeys s = "algorithm,key_id,value" then .ok ⟨algorithm, keyId, value⟩
      else .error "signature must be the closed \x7balgorithm,key_id,value\x7d object"
    | _, _, _ => .error "signature must be the closed \x7balgorithm,key_id,value\x7d object"
  | _ => .error "signature is not an object"

def natMember (o : List (String × Json)) (k : String) : Option ℕ :=
  match Json.get o k with
  | some (.num v) => v.toNat?
  | _ => none

def stringMember (o : List (String × Json)) (k : String) (test : String → Bool) : Option String :=
  match Json.strOf (Json.get o k) with
  | some s => if test s then some s else none
  | none => none

def checkpointMembers : List String :=
  ["checkpoint_version", "log_id", "tree_size", "root_hash", "timestamp", "signature"]

section Checkpoint

variable (dateParse : String → Option Int)

/-- A canonical timestamp that `Date.parse` reads. -/
def isTimestamp (ts : String) : Bool := isCanonicalTimestamp ts && (dateParse ts).isSome

/-- Closed-schema parse of a checkpoint. Reading the text of an ill-typed member may throw. -/
def parseCheckpoint (raw : Json) : Except JsError (Except String LogCheckpoint) :=
  match raw with
  | .obj o =>
    let (extra, missing) := closedMismatch o checkpointMembers
    if 0 < extra.length ∨ 0 < missing.length then
      .ok (.error ("checkpoint schema violation (closed §6 object): missing=[" ++
        String.intercalate "," missing ++ "] unknown=[" ++ String.intercalate "," extra ++ "]"))
    else if Json.strOf (Json.get o "checkpoint_version") ≠ some "acdp-log/1" then
      (memberText o "checkpoint_version").map fun v =>
        .error ("checkpoint_version must be 'acdp-log/1', got '" ++ v ++ "'")
    else
      match stringMember o "log_id" isLogId with
      | none => (memberText o "log_id").map fun v => .error ("malformed log_id '" ++ v ++ "'")
      | some logId =>
        match natMember o "tree_size" with
        | none => .ok (.error "tree_size must be an integer >= 0")
        | some treeSize =>
          match stringMember o "root_hash" isWireHash with
          | none => .ok (.error "malformed root_hash")
          | some rootHash =>
            match stringMember o "timestamp" (isTimestamp dateParse) with
            | none => .ok (.error "timestamp is not canonical ms-precision RFC 3339 UTC")
            | some timestamp =>
              .ok ((parseSignature (Json.get o "signature")).map fun signature =>
                ⟨logId, treeSize, rootHash, timestamp, signature⟩)
  | _ => .ok (.error "checkpoint is not a JSON object")

def LogCheckpoint.unsigned (checkpoint : LogCheckpoint) : Json :=
  .obj [("checkpoint_version", .str "acdp-log/1"), ("log_id", .str checkpoint.logId),
    ("tree_size", .num (JsNumber.ofNat checkpoint.treeSize)),
    ("root_hash", .str checkpoint.rootHash), ("timestamp", .str checkpoint.timestamp)]

def checkpointHash (crypto : Crypto) (checkpoint : LogCheckpoint) : Option String :=
  (crypto.canonicalize checkpoint.unsigned).map fun canonical =>
    "sha256:" ++ crypto.sha256Hex canonical

/-- Verify the registry's signature over the recomputed preimage hash. -/
def verifyCheckpointSignature (crypto : Crypto) (checkpoint : LogCheckpoint)
    (registryPublicKeyB64 : String) : VerifyOutcome :=
  if checkpoint.signature.algorithm ≠ "ed25519" then
    .error ("unsupported checkpoint signature algorithm '" ++ checkpoint.signature.algorithm ++
      "' — registries sign checkpoints with the ed25519 receipt key (RFC-ACDP-0012 §6)")
  else
    match checkpointHash crypto checkpoint with
    | none => .error "checkpoint could not be canonicalized (JCS)"
    | some hash =>
      if crypto.verifySignatureB64 registryPublicKeyB64 hash checkpoint.signature.value then .ok ()
      else .error "checkpoint signature invalid"

/-- The timestamp must not be in the future beyond the skew allowance. A comparison with `NaN`
is false. -/
def checkpointTimestampOk (checkpoint : LogCheckpoint) (nowMs : Int) : VerifyOutcome :=
  match dateParse checkpoint.timestamp with
  | some ts =>
    if ts - nowMs > CHECKPOINT_MAX_FUTURE_SKEW_MS then
      .error ("checkpoint timestamp '" ++ checkpoint.timestamp ++
        "' is in the future beyond the 120s skew allowance")
    else .ok ()
  | none => .ok ()

end Checkpoint

/-! ## The folds -/

/-- The loop `while (fn % 2n === 0n && fn !== 0n)`, which shifts both counters. -/
def skipEven (fn sn : ℕ) : ℕ × ℕ :=
  if _h : fn % 2 = 0 ∧ fn ≠ 0 then skipEven (fn / 2) (sn / 2) else (fn, sn)
termination_by fn
decreasing_by omega

/-- The loop `while (fn % 2n === 1n)`, which shifts both counters. -/
def skipOdd (fn sn : ℕ) : ℕ × ℕ :=
  if _h : fn % 2 = 1 then skipOdd (fn / 2) (sn / 2) else (fn, sn)
termination_by fn
decreasing_by omega

/-- The counters after a sibling on the left: an even `fn` is skipped up first, then one level. -/
def shiftLeftSibling (fn sn : ℕ) : ℕ × ℕ :=
  let (fn, sn) := if fn % 2 = 0 then skipEven fn sn else (fn, sn)
  (fn / 2, sn / 2)

section Folds

variable (h : Merkle.Hasher Digest)

/-- The loop of `verifyInclusionPath`, to its final `sn` and `r`. -/
def inclusionLoop : ℕ → ℕ → Digest → List String → Except String (ℕ × Digest)
  | _, sn, r, [] => .ok (sn, r)
  | fn, sn, r, element :: inclusionPath =>
    match wireHashToBuf element with
    | none => .error "malformed inclusion_path element"
    | some p =>
      if sn = 0 then .error "inclusion_path longer than the tree height"
      else if fn % 2 = 1 ∨ fn = sn then
        let (fn, sn) := shiftLeftSibling fn sn
        inclusionLoop fn sn (h.node p r) inclusionPath
      else inclusionLoop (fn / 2) (sn / 2) (h.node r p) inclusionPath

/-- Fold an audit path from a leaf hash up to a root and compare it with the checkpoint root. -/
def verifyInclusionPath (leafIndex treeSize : JsNumber) (leaf : Digest)
    (inclusionPath : List String) (expectedRootHash : String) : VerifyOutcome :=
  match wireHashToBuf expectedRootHash with
  | none => .error "malformed expected root hash"
  | some expectedRoot =>
    match leafIndex.int?, treeSize.int? with
    | some (.ofNat leafIndex), some treeSize =>
      if treeSize ≤ leafIndex then
        .error ("leaf_index " ++ toString leafIndex ++ " >= tree_size " ++ toString treeSize)
      else do
        let (sn, r) ← inclusionLoop h leafIndex (treeSize - 1).toNat leaf inclusionPath
        if sn ≠ 0 then .error "inclusion_path exhausted before the root"
        else if r ≠ expectedRoot then
          .error "computed root does not match the checkpoint root_hash"
        else .ok ()
    | _, _ => .error "leaf_index/tree_size must be non-negative integers"

/-- The test `n > 0 && (n & (n - 1)) === 0`, on 32-bit operands. -/
def isPowerOfTwo (n : ℕ) : Bool :=
  0 < n && toInt32 n &&& toInt32 (roundToDouble (n - 1)) == 0

/-- The loop of step 5 of `verifyConsistencyPath`, to its final `fr`, `sr` and `sn`. -/
def consistencyLoop : ℕ → ℕ → Digest → Digest → List Digest →
    Except String (Digest × Digest × ℕ)
  | _, sn, fr, sr, [] => .ok (fr, sr, sn)
  | fn, sn, fr, sr, c :: path =>
    if sn = 0 then .error "consistency_path longer than the tree height"
    else if fn % 2 = 1 ∨ fn = sn then
      let (fn, sn) := shiftLeftSibling fn sn
      consistencyLoop fn sn (h.node c fr) (h.node c sr) path
    else consistencyLoop (fn / 2) (sn / 2) fr (h.node sr c) path

/-- Steps 4 to 6 of `verifyConsistencyPath`, over a path that begins with its seed. -/
def foldConsistency (first second : ℕ) (path : List Digest) (firstRoot secondRoot : Digest) :
    VerifyOutcome :=
  match path with
  | [] => .error "malformed consistency_path element" -- not reached: the path is not empty
  | seed :: path => do
    let (fn, sn) := skipOdd (first - 1) (second - 1)
    let (fr, sr, sn) ← consistencyLoop h fn sn seed seed path
    if fr ≠ firstRoot then
      .error "folded first root does not match the retained root (history rewrite)"
    else if sr ≠ secondRoot then
      .error "folded second root does not match the checkpoint root (history rewrite)"
    else if sn ≠ 0 then .error "consistency_path exhausted before the root"
    else .ok ()

/-- Verify a consistency proof between the retained root at `first` and the checkpointed root at
`second`. -/
def verifyConsistencyPath (first second : JsNumber) (consistencyPath : List String)
    (firstRootHash secondRootHash : String) : VerifyOutcome :=
  match wireHashToBuf firstRootHash, wireHashToBuf secondRootHash with
  | some firstRoot, some secondRoot =>
    match first.int?, second.int? with
    | some (.ofNat first), some (.ofNat second) =>
      if first = second then
        if consistencyPath.length ≠ 0 then
          .error "consistency_path must be empty when first == second"
        else if firstRoot = secondRoot then .ok ()
        else .error "same tree_size but different root_hash (split view)"
      else if first = 0 ∨ first > second ∨ consistencyPath.length = 0 then
        .error "invalid consistency proof shape (first==0, first>second, or empty path)"
      else
        match consistencyPath.mapM wireHashToBuf with
        | none => .error "malformed consistency_path element"
        | some rawPath =>
          let path := if isPowerOfTwo first then firstRoot :: rawPath else rawPath
          foldConsistency h first second path firstRoot secondRoot
    | _, _ => .error "tree sizes must be non-negative integers"
  | _, _ => .error "malformed retained/checkpoint root hash"

end Folds

/-! ## Proof responses -/

structure ConsistencyProof where
  logId : String
  firstTreeSize : ℕ
  secondTreeSize : ℕ
  consistencyPath : List String
deriving DecidableEq, Repr

def wireHashArray : Option Json → Option (List String)
  | some (.arr es) => es.mapM fun
    | .str s => if isWireHash s then some s else none
    | _ => none
  | _ => none

def parseConsistencyProof (raw : Json) : Except String ConsistencyProof :=
  match raw with
  | .obj o =>
    match Json.strOf (Json.get o "log_id") with
    | none => .error "proof has no log_id"
    | some logId =>
      match natMember o "first_tree_size" with
      | none => .error "proof first_tree_size must be an integer >= 0"
      | some firstTreeSize =>
        match natMember o "second_tree_size" with
        | none => .error "proof second_tree_size must be an integer >= 0"
        | some secondTreeSize =>
          match wireHashArray (Json.get o "consistency_path") with
          | none => .error "proof consistency_path must be an array of sha256 wire hashes"
          | some consistencyPath =>
            if Json.isObjectLike (Json.get o "log_checkpoint") then
              .ok ⟨logId, firstTreeSize, secondTreeSize, consistencyPath⟩
            else .error "proof carries no log_checkpoint"
  | _ => .error "consistency proof is not a JSON object"

/-- The binding's consistency fold, on the closed projection of the proof: the parsed reply
(`none` when it is not JSON), or the thrown error. -/
structure LogSurface where
  verifyLogConsistency : ConsistencyProof → LogCheckpoint → String →
    Except NativeError (Option Json)

def nativeErr (err : NativeError) : String :=
  match err.code with
  | some code => code ++ ": " ++ err.message
  | none => err.message

def nativeVerdict (reply : Except NativeError (Option Json)) : VerifyOutcome :=
  match reply with
  | .error err => .error (nativeErr err)
  | .ok none => .error "native log verification returned non-JSON"
  | .ok (some (.obj o)) =>
    match Json.get o "valid" with
    | some (.bool true) => .ok ()
    | _ => .error ((Json.strOf (Json.get o "error")).getD "native log verification failed")
  | .ok (some _) => .error "native log verification failed"

/-- The native fold when the binding carries the log surface, else the host fold. -/
def verifyConsistency (h : Merkle.Hasher Digest) (surface : Option LogSurface)
    (proof : ConsistencyProof) (checkpoint : LogCheckpoint) (firstRootHash : String) :
    VerifyOutcome :=
  match surface with
  | some surface => nativeVerdict (surface.verifyLogConsistency proof checkpoint firstRootHash)
  | none =>
    verifyConsistencyPath h proof.firstTreeSize proof.secondTreeSize proof.consistencyPath
      firstRootHash checkpoint.rootHash

end AcdpControlPlane
