import AcdpControlPlane.Log.Verify

/-!
# Inclusion proofs

What an audit needs to check that a receipt is in the log of its registry: the leaf, which is
rebuilt from the stored receipt, the open parse of a proof, and the fold, by the binding when it
carries the log surface and by the host otherwise. From `src/audit/log-verify.ts`.
-/

namespace AcdpControlPlane

/-- The members of an inclusion proof that are given to the binding. -/
structure ClosedInclusionProof where
  logId : String
  leafIndex : ℕ
  treeSize : ℕ
  inclusionPath : List String
deriving DecidableEq, Repr

structure InclusionProof extends ClosedInclusionProof where
  logCheckpoint : Json

def parseInclusionProof (raw : Json) : Except String InclusionProof :=
  match raw with
  | .obj o =>
    match Json.strOf (Json.get o "log_id") with
    | none => .error "proof has no log_id"
    | some logId =>
      match natMember o "leaf_index" with
      | none => .error "proof leaf_index must be an integer >= 0"
      | some leafIndex =>
        match natMember o "tree_size" with
        | none => .error "proof tree_size must be an integer >= 0"
        | some treeSize =>
          match wireHashArray (Json.get o "inclusion_path") with
          | none => .error "proof inclusion_path must be an array of sha256 wire hashes"
          | some inclusionPath =>
            match Json.get o "log_checkpoint" with
            | some logCheckpoint =>
              if Json.isObjectLike (some logCheckpoint) then
                .ok ⟨⟨logId, leafIndex, treeSize, inclusionPath⟩, logCheckpoint⟩
              else .error "proof carries no log_checkpoint"
            | none => .error "proof carries no log_checkpoint"
  | _ => .error "inclusion proof is not a JSON object"

/-! ## Leaves -/

def leafFields : List String :=
  ["ctx_id", "lineage_id", "origin_registry", "created_at", "content_hash", "key_fingerprint"]

/-- The leaf of a stored receipt. The receipt hash is over the receipt without its signature. An
array has no members of these names. -/
def buildLogLeaf (crypto : Crypto) (receipt : Json) : Except String Json :=
  let text f := (Json.strOf (receipt.member f)).getD ""
  match leafFields.find? fun f => text f = "" with
  | some f => .error ("receipt has no usable '" ++ f ++ "' to build the log leaf")
  | none =>
    match receipt with
    | .obj o =>
      match crypto.canonicalize (.obj (o.filter (·.1 ≠ "signature"))) with
      | none => .error "receipt could not be canonicalized (JCS)"
      | some canonical =>
        .ok (.obj (("leaf_version", .str "acdp-log-leaf/1") ::
          leafFields.map (fun f => (f, .str (text f))) ++
          [("receipt_hash", .str ("sha256:" ++ crypto.sha256Hex canonical))]))
    | _ => .error "receipt could not be canonicalized (JCS)" -- not reached: it has no members

structure InclusionSdk where
  crypto : Crypto
  hasher : Merkle.Hasher Digest
  leafDigest : String → Digest
  verifyLogInclusion : Option (ClosedInclusionProof → LogCheckpoint → Json →
    Except NativeError (Option Json))
  stripFragment : String → String
  dateParse : String → Option Int

/-- The hash of a leaf; `none` if it cannot be canonicalized. -/
def leafHash (sdk : InclusionSdk) (leaf : Json) : Option Digest :=
  (sdk.crypto.canonicalize leaf).map sdk.leafDigest

/-- The native fold when the binding carries the log surface, else the host fold. -/
def verifyInclusion (sdk : InclusionSdk) (proof : InclusionProof) (checkpoint : LogCheckpoint)
    (leaf : Json) : VerifyOutcome :=
  match sdk.verifyLogInclusion with
  | some verifyLogInclusion =>
    nativeVerdict (verifyLogInclusion proof.toClosedInclusionProof checkpoint leaf)
  | none =>
    match leafHash sdk leaf with
    | none => .error "reconstructed leaf could not be canonicalized (JCS)"
    | some leafH =>
      verifyInclusionPath sdk.hasher proof.leafIndex proof.treeSize leafH proof.inclusionPath
        checkpoint.rootHash

end AcdpControlPlane
