import AcdpControlPlane.Log.Verify

/-!
# Witness cosignatures

The cosignature object of RFC-ACDP-0015: its closed parse, its signing input, the host mint and the
host verification under a witness key, as `src/audit/cosign.ts` computes them.
-/

namespace AcdpControlPlane

def COSIGNATURE_VERSION : String := "acdp-cosig/1"

def INVALID_WITNESS_COSIGNATURE : String := "INVALID_WITNESS_COSIGNATURE"

structure WitnessedCheckpoint where
  logId : String
  treeSize : ℕ
  rootHash : String
  timestamp : String
deriving DecidableEq, Repr

structure LogCosignature where
  witnessId : String
  witnessedCheckpoint : WitnessedCheckpoint
  witnessedAt : String
  signature : Signature
deriving DecidableEq, Repr

/-- A refused cosignature: the verdict category, when there is one, and the reason. -/
structure CosignError where
  code : Option String
  reason : String
deriving DecidableEq, Repr

abbrev CosignOutcome := Except CosignError Unit

/-! ## Parsing -/

/-- The characters of a `did:key`: `[1-9A-HJ-NP-Za-km-z]`. -/
def isDidKeyChar (c : Char) : Bool :=
  c.isAlphanum && c != '0' && c != 'I' && c != 'O' && c != 'l'

/-- The test `WITNESS_DID_RE`. -/
def isWitnessDid (did : String) : Bool :=
  if startsWith did "did:web:" then
    let rest := did.toList.drop 8
    rest != [] && rest.all isAuthorityChar
  else if startsWith did "did:key:z" then
    let rest := did.toList.drop 9
    rest != [] && rest.all isDidKeyChar
  else false

def cosignatureMembers : List String :=
  ["cosignature_version", "witness_id", "witnessed_checkpoint", "witnessed_at", "signature"]

section Parse

variable (dateParse : String → Option Int)

/-- The closed `witnessed_checkpoint` object. -/
def validateWitnessedCheckpoint (raw : Option Json) : Except String WitnessedCheckpoint :=
  match raw with
  | some (.obj o) =>
    let (extra, missing) := closedMismatch o ["log_id", "tree_size", "root_hash", "timestamp"]
    if 0 < extra.length ∨ 0 < missing.length then
      .error ("witnessed_checkpoint schema violation " ++
        "(closed \x7blog_id,tree_size,root_hash,timestamp\x7d)")
    else
      match stringMember o "log_id" isLogId with
      | none => .error "witnessed_checkpoint.log_id is malformed"
      | some logId =>
        match natMember o "tree_size" with
        | none => .error "witnessed_checkpoint.tree_size must be an integer >= 0"
        | some treeSize =>
          match stringMember o "root_hash" isWireHash with
          | none => .error "witnessed_checkpoint.root_hash is malformed"
          | some rootHash =>
            match stringMember o "timestamp" (isTimestamp dateParse) with
            | none =>
              .error "witnessed_checkpoint.timestamp is not canonical ms-precision RFC 3339 UTC"
            | some timestamp => .ok ⟨logId, treeSize, rootHash, timestamp⟩
  | _ => .error "witnessed_checkpoint is not an object"

/-- Closed-schema parse of a cosignature. Reading the text of an ill-typed member may throw. -/
def parseCosignature (raw : Json) : Except JsError (Except String LogCosignature) :=
  match raw with
  | .obj o =>
    let (extra, missing) := closedMismatch o cosignatureMembers
    if 0 < extra.length ∨ 0 < missing.length then
      .ok (.error ("cosignature schema violation (closed §4 object): missing=[" ++
        String.intercalate "," missing ++ "] unknown=[" ++ String.intercalate "," extra ++ "]"))
    else if Json.strOf (Json.get o "cosignature_version") ≠ some COSIGNATURE_VERSION then
      (memberText o "cosignature_version").map fun v =>
        .error ("cosignature_version must be '" ++ COSIGNATURE_VERSION ++ "', got '" ++ v ++ "'")
    else
      match stringMember o "witness_id" isWitnessDid with
      | none =>
        (memberText o "witness_id").map fun v => .error ("malformed witness_id '" ++ v ++ "'")
      | some witnessId =>
        match validateWitnessedCheckpoint dateParse (Json.get o "witnessed_checkpoint") with
        | .error reason => .ok (.error reason)
        | .ok witnessedCheckpoint =>
          match stringMember o "witnessed_at" (isTimestamp dateParse) with
          | none => .ok (.error "witnessed_at is not canonical ms-precision RFC 3339 UTC")
          | some witnessedAt =>
            .ok ((parseSignature (Json.get o "signature")).map fun signature =>
              ⟨witnessId, witnessedCheckpoint, witnessedAt, signature⟩)
  | _ => .ok (.error "cosignature is not a JSON object")

end Parse

/-! ## Signing input and mint -/

def unsignedCosignature (witnessId : String) (witnessedCheckpoint : WitnessedCheckpoint)
    (witnessedAt : String) : Json :=
  .obj [("cosignature_version", .str COSIGNATURE_VERSION), ("witness_id", .str witnessId),
    ("witnessed_checkpoint", .obj [("log_id", .str witnessedCheckpoint.logId),
      ("tree_size", .num (JsNumber.ofNat witnessedCheckpoint.treeSize)),
      ("root_hash", .str witnessedCheckpoint.rootHash),
      ("timestamp", .str witnessedCheckpoint.timestamp)]),
    ("witnessed_at", .str witnessedAt)]

def LogCosignature.unsigned (cosignature : LogCosignature) : Json :=
  unsignedCosignature cosignature.witnessId cosignature.witnessedCheckpoint
    cosignature.witnessedAt

def cosignatureHash (crypto : Crypto) (unsigned : Json) : Option String :=
  (crypto.canonicalize unsigned).map fun canonical => "sha256:" ++ crypto.sha256Hex canonical

structure WitnessSigner where
  witnessId : String
  keyId : String
  seedHex : Option String
  signAsciiToBase64 : String → String

def tsMintCosignature (crypto : Crypto) (witnessedCheckpoint : WitnessedCheckpoint)
    (witnessedAt : String) (signer : WitnessSigner) : Except String (LogCosignature × String) :=
  match cosignatureHash crypto
      (unsignedCosignature signer.witnessId witnessedCheckpoint witnessedAt) with
  | none => .error "cosignature could not be canonicalized (JCS)"
  | some hash =>
    .ok (⟨signer.witnessId, witnessedCheckpoint, witnessedAt,
      ⟨"ed25519", signer.keyId, signer.signAsciiToBase64 hash⟩⟩, hash)

/-- The binding's cosignature surface: the mint, from the tuple, the witness id, the seed and the
time, to the parsed cosignature or the reason it failed. -/
structure CosignSurface where
  buildWitnessCosignature : WitnessedCheckpoint → String → String → String →
    Except String LogCosignature

def nativeMintCosignature (surface : CosignSurface) (crypto : Crypto)
    (witnessedCheckpoint : WitnessedCheckpoint) (witnessedAt : String) (signer : WitnessSigner) :
    Except String (LogCosignature × String) :=
  match signer.seedHex with
  | none => .error "signer exposes no seed for the native mint path"
  | some seedHex =>
    match surface.buildWitnessCosignature witnessedCheckpoint signer.witnessId seedHex
        witnessedAt with
    | .error reason => .error reason
    | .ok cosignature =>
      match cosignatureHash crypto cosignature.unsigned with
      | none => .error "native cosignature could not be canonicalized (JCS)"
      | some hash => .ok (cosignature, hash)

/-- Mint a cosignature: through the binding when it can serve the signer, else, or when that fails,
on the host. -/
def mintCosignature (surface : Option CosignSurface) (crypto : Crypto)
    (witnessedCheckpoint : WitnessedCheckpoint) (witnessedAt : String) (signer : WitnessSigner) :
    Except String (LogCosignature × String) :=
  match surface with
  | some surface =>
    if signer.seedHex.isSome ∧ signer.keyId = signer.witnessId ++ "#witness-key-1" then
      match nativeMintCosignature surface crypto witnessedCheckpoint witnessedAt signer with
      | .ok minted => .ok minted
      | .error _ => tsMintCosignature crypto witnessedCheckpoint witnessedAt signer
    else tsMintCosignature crypto witnessedCheckpoint witnessedAt signer
  | none => tsMintCosignature crypto witnessedCheckpoint witnessedAt signer

/-! ## Verification -/

/-- The host verification of a cosignature under a witness key. -/
def tsVerifyCosignature (crypto : Crypto) (cosignature : LogCosignature)
    (witnessPublicKeyB64 : String) : CosignOutcome :=
  if cosignature.signature.algorithm ≠ "ed25519" then
    .error ⟨some INVALID_WITNESS_COSIGNATURE, "unsupported cosignature algorithm '" ++
      cosignature.signature.algorithm ++ "' — ed25519 is mandatory (RFC-ACDP-0015 §5)"⟩
  else if stripFragment cosignature.signature.keyId ≠ cosignature.witnessId then
    .error ⟨some INVALID_WITNESS_COSIGNATURE, "signature.key_id '" ++
      cosignature.signature.keyId ++ "' is not a key of witness_id '" ++
      cosignature.witnessId ++ "'"⟩
  else
    match cosignatureHash crypto cosignature.unsigned with
    | none =>
      .error ⟨some INVALID_WITNESS_COSIGNATURE, "cosignature could not be canonicalized (JCS)"⟩
    | some hash =>
      if crypto.verifySignatureB64 witnessPublicKeyB64 hash cosignature.signature.value then .ok ()
      else .error ⟨some INVALID_WITNESS_COSIGNATURE, "witness cosignature signature invalid"⟩

section Freshness

variable (dateParse : String → Option Int)

/-- The test that `witnessed_at` is not in the future beyond the allowance. -/
def cosignatureFreshnessOk (cosignature : LogCosignature) (nowMs maxFutureSkewMs : Int) :
    CosignOutcome :=
  match dateParse cosignature.witnessedAt with
  | some ts =>
    if ts - nowMs > maxFutureSkewMs then
      .error ⟨some INVALID_WITNESS_COSIGNATURE, "witnessed_at '" ++ cosignature.witnessedAt ++
        "' is in the future beyond the " ++ toString ((maxFutureSkewMs + 500) / 1000) ++
        "s skew allowance"⟩
    else .ok ()
  | none => .ok ()

/-- The freshness split of a verified cosignature; `maxAgeSecs` may be `null`. -/
def cosignatureAgeOk (cosignature : LogCosignature) (nowMs : Int) (maxAgeSecs : Option Int) :
    Bool :=
  match maxAgeSecs, dateParse cosignature.witnessedAt with
  | none, _ => true
  | some maxAgeSecs, some ts => nowMs - ts ≤ maxAgeSecs * 1000
  | some _, none => false

end Freshness

def LogCosignature.SignedBy (crypto : Crypto) (cosignature : LogCosignature) (key : String) :
    Prop :=
  ∃ hash, cosignatureHash crypto cosignature.unsigned = some hash ∧
    crypto.verifySignatureB64 key hash cosignature.signature.value = true

theorem tsVerifyCosignature_eq_ok {crypto : Crypto} {cosignature : LogCosignature} {key : String} :
    tsVerifyCosignature crypto cosignature key = .ok () ↔
      cosignature.signature.algorithm = "ed25519" ∧
        stripFragment cosignature.signature.keyId = cosignature.witnessId ∧
        cosignature.SignedBy crypto key := by
  unfold tsVerifyCosignature LogCosignature.SignedBy
  by_cases ha : cosignature.signature.algorithm = "ed25519"
  · by_cases hd : stripFragment cosignature.signature.keyId = cosignature.witnessId
    · rw [if_neg (not_not.mpr ha), if_neg (not_not.mpr hd)]
      cases hh : cosignatureHash crypto cosignature.unsigned with
      | none => simp
      | some has =>
        by_cases hs : crypto.verifySignatureB64 key has cosignature.signature.value = true
        · simp [ha, hd, hs]
        · simp [hs]
    · simp [ha, hd]
  · simp [ha]

end AcdpControlPlane
