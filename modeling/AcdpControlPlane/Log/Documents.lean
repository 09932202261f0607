import AcdpControlPlane.Log.Verify

/-!
# The documents of an honest registry

What a registry serves for a checkpoint and for a consistency proof, as JSON with its members in
any order, and that the parsers read it back. A checkpoint is a closed object, so its member names
are exactly those of the schema; a proof is open and may have further members.
-/

namespace AcdpControlPlane

def NatMember (o : List (String × Json)) (k : String) (n : ℕ) : Prop :=
  ∃ v, Json.get o k = some (.num v) ∧ v.toNat? = some n

variable {o : List (String × Json)}

theorem natMember_eq {k : String} {n : ℕ} (h : NatMember o k n) : natMember o k = some n := by
  obtain ⟨v, hg, hv⟩ := h
  rw [natMember, hg]
  exact hv

theorem stringMember_eq {k s : String} {test : String → Bool} (hg : Json.get o k = some (.str s))
    (ht : test s = true) : stringMember o k test = some s := by
  rw [stringMember, hg]
  exact if_pos ht

/-! ## Checkpoints -/

structure SignatureDocument (s : List (String × Json)) (signature : Signature) : Prop where
  keys : (Json.keys s).Perm ["algorithm", "key_id", "value"]
  algorithm : Json.get s "algorithm" = some (.str signature.algorithm)
  keyId : Json.get s "key_id" = some (.str signature.keyId)
  value : Json.get s "value" = some (.str signature.value)

structure CheckpointDocument (o : List (String × Json)) (checkpoint : LogCheckpoint) : Prop where
  keys : (Json.keys o).Perm checkpointMembers
  version : Json.get o "checkpoint_version" = some (.str "acdp-log/1")
  logId : Json.get o "log_id" = some (.str checkpoint.logId)
  treeSize : NatMember o "tree_size" checkpoint.treeSize
  rootHash : Json.get o "root_hash" = some (.str checkpoint.rootHash)
  timestamp : Json.get o "timestamp" = some (.str checkpoint.timestamp)
  signature : ∃ s, Json.get o "signature" = some (.obj s) ∧
    SignatureDocument s checkpoint.signature

theorem closedMismatch_eq {expected : List String}
    (hke : (Json.keys o).Perm expected) : closedMismatch o expected = ([], []) := by
  refine Prod.ext (List.filter_eq_nil_iff.mpr fun k hk => ?_)
    (List.filter_eq_nil_iff.mpr fun k hk => ?_)
  · simpa using hke.mem_iff.mp hk
  · simpa using hke.mem_iff.mpr hk

theorem parseSignature_document {s : List (String × Json)} {signature : Signature}
    (h : SignatureDocument s signature) : parseSignature (some (.obj s)) = .ok signature := by
  have hs : sortedKeys s = "algorithm,key_id,value" := by
    have hp : ((Json.keys s).insertionSort (· ≤ ·)).Perm ["algorithm", "key_id", "value"] :=
      (List.perm_insertionSort _ _).trans h.keys
    rw [sortedKeys, hp.eq_of_pairwise' (List.pairwise_insertionSort _ _) (by decide)]
    decide
  rw [parseSignature, h.algorithm, h.keyId, h.value]
  exact if_pos hs

theorem parseCheckpoint_document {dateParse : String → Option Int}
    {checkpoint : LogCheckpoint} (h : CheckpointDocument o checkpoint)
    (hl : isLogId checkpoint.logId = true) (hr : isWireHash checkpoint.rootHash = true)
    (ht : isTimestamp dateParse checkpoint.timestamp = true) :
    parseCheckpoint dateParse (.obj o) = .ok (.ok checkpoint) := by
  obtain ⟨s, hs, hsi⟩ := h.signature
  have hv : Json.strOf (Json.get o "checkpoint_version") = some "acdp-log/1" := by
    rw [h.version]
    rfl
  unfold parseCheckpoint
  dsimp only
  rw [closedMismatch_eq h.keys]
  rw [if_neg (by simp), if_neg (not_not.mpr hv), stringMember_eq h.logId hl,
    natMember_eq h.treeSize, stringMember_eq h.rootHash hr,
    stringMember_eq h.timestamp ht, hs, parseSignature_document hsi]
  rfl

/-! ## Proofs -/

structure ProofDocument (o : List (String × Json)) (proof : ConsistencyProof) : Prop where
  logId : Json.get o "log_id" = some (.str proof.logId)
  firstTreeSize : NatMember o "first_tree_size" proof.firstTreeSize
  secondTreeSize : NatMember o "second_tree_size" proof.secondTreeSize
  consistencyPath : Json.get o "consistency_path" = some (.arr (proof.consistencyPath.map .str))
  logCheckpoint : Json.isObjectLike (Json.get o "log_checkpoint") = true

theorem wireHashArray_map_str {path : List String} (hpa : ∀ p ∈ path, isWireHash p = true) :
    wireHashArray (some (.arr (path.map .str))) = some path := by
  rw [wireHashArray, List.mapM_map]
  induction path with
  | nil => rfl
  | cons p path ih =>
    have hp := hpa p List.mem_cons_self
    have ih := ih fun q hq => hpa q (List.mem_cons_of_mem _ hq)
    simp [List.mapM_cons, hp, ih]

theorem parseConsistencyProof_document {proof : ConsistencyProof}
    (h : ProofDocument o proof) (hp : ∀ p ∈ proof.consistencyPath, isWireHash p = true) :
    parseConsistencyProof (.obj o) = .ok proof := by
  have hl : Json.strOf (Json.get o "log_id") = some proof.logId := by
    rw [h.logId]
    rfl
  unfold parseConsistencyProof
  dsimp only
  rw [hl, natMember_eq h.firstTreeSize, natMember_eq h.secondTreeSize, h.consistencyPath,
    wireHashArray_map_str hp]
  exact if_pos h.logCheckpoint

end AcdpControlPlane
