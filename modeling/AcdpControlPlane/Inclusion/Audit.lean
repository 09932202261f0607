import AcdpControlPlane.Log.Inclusion
import AcdpControlPlane.Receipt.Verify
import AcdpControlPlane.Witness.Evidence

/-!
# The inclusion audit

`src/audit/log-inclusion-audit.service.ts` checks that a receipt the control plane holds is in the
log of its registry. The proof comes with a checkpoint. When the witness has seen a head of the same
log and size, that checkpoint must carry the same root: another root is taken for a split view, and
the verdict says so.
-/

namespace AcdpControlPlane

def TRANSPARENCY_LOG_PROFILE : String := "acdp-registry-transparency-log"

/-! ## The outside -/

/-- What the audit of one event meets outside. -/
structure InclusionEnv where
  nowMs : Int
  advertisesTransparencyLog : Except JsError (Option Bool)
  registryBaseUrl : Except JsError (Option String)
  get : String → Except JsError FederationResponse
  resolveReceiptKey : String → Except JsError String
  witnessedFault : Option JsError
  rowChoice : ℕ

def findByLogIdAndSize (rowChoice : ℕ) (tenantId logId : String) (treeSize : ℕ) (db : Db) :
    Option LogWitnessCheckpoint :=
  let rows := db.checkpoints.filter fun row =>
    row.tenantId = tenantId ∧ row.checkpoint.logId = logId ∧ row.checkpoint.treeSize = treeSize
  rows[rowChoice % rows.length]?

/-! ## Verdicts -/

inductive InclusionStatus where
  | included
  | invalid_proof
  | not_logged
  | no_log
  | error
deriving DecidableEq, Repr

structure InclusionVerdict where
  status : InclusionStatus
  detail : List String
  logId : Option String
  leafIndex : Option ℕ
  treeSize : Option ℕ
deriving DecidableEq, Repr

def verdict (status : InclusionStatus) (detail : List String) (proof? : Option InclusionProof) :
    InclusionVerdict :=
  ⟨status, detail, proof?.map (·.logId), proof?.map (·.leafIndex), proof?.map (·.treeSize)⟩

/-- How an audit ends. The accusation of a split view is kept apart from the other verdicts. -/
inductive InclusionExit where
  | verdict (v : InclusionVerdict)
  | splitView (proof : InclusionProof) (checkpoint : LogCheckpoint) (witnessedRoot : String)

def InclusionExit.toVerdict : InclusionExit → InclusionVerdict
  | .verdict v => v
  | .splitView proof checkpoint witnessedRoot =>
    AcdpControlPlane.verdict .invalid_proof [INVALID_LOG_PROOF ++ ": proof checkpoint root '" ++
      checkpoint.rootHash ++ "' diverges from the witnessed root '" ++ witnessedRoot ++
      "' at (log_id='" ++ checkpoint.logId ++ "', tree_size=" ++ toString checkpoint.treeSize ++
      ") — split-view evidence"] (some proof)

def invalidProof (reason : String) (proof? : Option InclusionProof) : InclusionExit :=
  .verdict (verdict .invalid_proof [INVALID_LOG_PROOF ++ ": " ++ reason] proof?)

def unverified (reason : String) (proof? : Option InclusionProof) : InclusionExit :=
  .verdict (verdict .error ["unverified: " ++ reason] proof?)

section Audit

variable (sdk : InclusionSdk) (env : InclusionEnv)

/-- The end of the audit: the fold from the leaf to the root of the checkpoint. -/
def foldExit (proof : InclusionProof) (checkpoint : LogCheckpoint) (leaf : Json) : InclusionExit :=
  match verifyInclusion sdk proof checkpoint leaf with
  | .error reason => invalidProof reason (some proof)
  | .ok () => .verdict (verdict .included [] (some proof))

/-- The audit from a verified checkpoint on: binding of the proof, comparison with the witnessed
root, fold. -/
def boundExit (ev : PublishEvent) (leaf : Json) (proof : InclusionProof)
    (checkpoint : LogCheckpoint) (db : Db) : Except JsError InclusionExit :=
  if proof.logId ≠ checkpoint.logId ∨ proof.treeSize ≠ checkpoint.treeSize ∨
      proof.treeSize ≤ proof.leafIndex then
    .ok (invalidProof ("proof/checkpoint binding failed " ++
      "(log_id, tree_size equality; leaf_index < tree_size)") (some proof))
  else
    match env.witnessedFault with
    | some err => .error err
    | none =>
      match findByLogIdAndSize env.rowChoice ev.tenantId checkpoint.logId checkpoint.treeSize db with
      | some witnessed =>
        if witnessed.checkpoint.rootHash ≠ checkpoint.rootHash then
          .ok (.splitView proof checkpoint witnessed.checkpoint.rootHash)
        else .ok (foldExit sdk proof checkpoint leaf)
      | none => .ok (foldExit sdk proof checkpoint leaf)

def checkpointExit (ev : PublishEvent) (leaf : Json) (proof : InclusionProof) (db : Db) :
    Except JsError InclusionExit :=
  match parseCheckpoint sdk.dateParse proof.logCheckpoint with
  | .error err => .error err
  | .ok (.error reason) => .ok (invalidProof ("checkpoint: " ++ reason) (some proof))
  | .ok (.ok checkpoint) =>
    match authorityToDidWeb ev.registryAuthority with
    | none => .ok (unverified (nonCanonicalAuthorityReason ev.registryAuthority) (some proof))
    | some expectedDid =>
      if logIdRegistryDid checkpoint.logId ≠ some expectedDid then
        .ok (invalidProof ("checkpoint log_id '" ++ checkpoint.logId ++ "' is not bound to '" ++
          expectedDid ++ "'") (some proof))
      else if sdk.stripFragment checkpoint.signature.keyId ≠ expectedDid then
        .ok (invalidProof ("checkpoint signature.key_id '" ++ checkpoint.signature.keyId ++
          "' is not a key of '" ++ expectedDid ++ "'") (some proof))
      else
        match checkpointTimestampOk sdk.dateParse checkpoint env.nowMs with
        | .error reason => .ok (invalidProof reason (some proof))
        | .ok () =>
          match env.resolveReceiptKey checkpoint.signature.keyId with
          | .error err =>
            .ok (unverified ("registry receipt key resolution failed: " ++ err.message) none)
          | .ok registryKeyB64 =>
            match verifyCheckpointSignature sdk.crypto checkpoint registryKeyB64 with
            | .error reason => .ok (invalidProof reason (some proof))
            | .ok () => boundExit sdk env ev leaf proof checkpoint db

/-- The request for a proof: the parsed body, or the verdict that ends the audit. -/
def fetchProof (baseUrl ctxId : String) : Except InclusionExit Json :=
  match env.get (baseUrl ++ "/log/proof?ctx_id=" ++ encodeURIComponent ctxId) with
  | .error err => .error (unverified ("proof fetch failed: " ++ err.message) none)
  | .ok resp =>
    if resp.status = 404 then
      .error (.verdict (verdict .not_logged ["registry advertises " ++ TRANSPARENCY_LOG_PROFILE ++
        " and minted a receipt for '" ++ ctxId ++ "' but served not_found for its inclusion " ++
        "proof (RFC-ACDP-0012 §3 omission evidence)"] none))
    else if !resp.isSuccess then
      .error (unverified ("/log/proof returned HTTP " ++ toString resp.status) none)
    else
      match resp.json with
      | .error err => .error (unverified ("proof fetch failed: " ++ err.message) none)
      | .ok proofRaw => .ok proofRaw

/-- `auditEventInner`: the exit of the audit of one event. -/
def auditEventExit (ev : PublishEvent) (db : Db) : Except JsError InclusionExit :=
  match ev.receipt with
  | none => .ok (unverified "event has no stored registry_receipt" none)
  | some receipt =>
    match truthy ev.ctxId with
    | none => .ok (unverified "event has no ctx_id to prove" none)
    | some ctxId =>
      match env.advertisesTransparencyLog with
      | .error err => .error err
      | .ok (some false) => .ok (.verdict (verdict .no_log [] none))
      | .ok none =>
        .ok (unverified ("capabilities for '" ++ ev.registryAuthority ++ "' unreadable") none)
      | .ok (some true) =>
        match env.registryBaseUrl with
        | .error err => .error err
        | .ok baseUrl? =>
          match truthy baseUrl? with
          | none =>
            .ok (unverified ("no base_url known for '" ++ ev.registryAuthority ++ "'") none)
          | some baseUrl =>
            match buildLogLeaf sdk.crypto receipt with
            | .error reason => .ok (unverified ("leaf reconstruction failed: " ++ reason) none)
            | .ok leaf =>
              match fetchProof env (trimSlash baseUrl) ctxId with
              | .error exit => .ok exit
              | .ok proofRaw =>
                match parseInclusionProof proofRaw with
                | .error reason => .ok (invalidProof reason none)
                | .ok proof => checkpointExit sdk env ev leaf proof db

def auditEvent (ev : PublishEvent) (db : Db) : InclusionVerdict :=
  match auditEventExit sdk env ev db with
  | .ok exit => exit.toVerdict
  | .error err => verdict .error ["unverified: audit crashed: " ++ err.message] none

end Audit

/-! ## Split views -/

def LogCheckpoint.Rivals (c checkpoint : LogCheckpoint) : Prop :=
  c.logId = checkpoint.logId ∧ c.treeSize = checkpoint.treeSize ∧
    c.rootHash ≠ checkpoint.rootHash

section SplitView

variable {sdk : InclusionSdk} {env : InclusionEnv} {ev : PublishEvent} {leaf : Json} {db : Db}
  {proof proof' : InclusionProof} {checkpoint c : LogCheckpoint} {witnessedRoot : String}

theorem findByLogIdAndSize_eq_some {rowChoice : ℕ} {tenantId logId : String} {treeSize : ℕ}
    {row : LogWitnessCheckpoint}
    (h : findByLogIdAndSize rowChoice tenantId logId treeSize db = some row) :
    row ∈ db.checkpoints ∧ row.tenantId = tenantId ∧ row.checkpoint.logId = logId ∧
      row.checkpoint.treeSize = treeSize := by
  have hm := List.mem_of_getElem? h
  rw [List.mem_filter, decide_eq_true_eq] at hm
  exact hm

theorem foldExit_ne_splitView :
    foldExit sdk proof checkpoint leaf ≠ .splitView proof' c witnessedRoot := by
  unfold foldExit
  split
  · nofun
  · nofun

theorem auditEventExit_splitView
    (h : auditEventExit sdk env ev db = .ok (.splitView proof checkpoint witnessedRoot)) :
    ∃ row ∈ db.checkpoints, row.tenantId = ev.tenantId ∧ row.checkpoint.Rivals checkpoint := by
  unfold auditEventExit at h
  split at h
  · cases h
  split at h
  · cases h
  split at h
  · cases h
  · cases h
  · cases h
  split at h
  · cases h
  split at h
  · cases h
  split at h
  · cases h
  split at h
  · next exit hf =>
    -- no verdict of the request is an accusation
    cases h
    unfold fetchProof at hf
    split at hf
    · cases hf
    split at hf
    · cases hf
    split at hf
    · cases hf
    split at hf <;> cases hf
  split at h
  · cases h
  unfold checkpointExit at h
  split at h
  · cases h
  · cases h
  split at h
  · cases h
  split at h
  · cases h
  split at h
  · cases h
  split at h
  · cases h
  split at h
  · cases h
  split at h
  · cases h
  unfold boundExit at h
  split at h
  · cases h
  split at h
  · cases h
  split at h
  · next row hro =>
    split at h
    · next hr =>
      cases h
      obtain ⟨hm, ht, hl, hs⟩ := findByLogIdAndSize_eq_some hro
      exact ⟨row, hm, ht, hl, hs, hr⟩
    · exact absurd (Except.ok.inj h) foldExit_ne_splitView
  · exact absurd (Except.ok.inj h) foldExit_ne_splitView

end SplitView

/-! ## Runs

Audits read the evidence and write a table of their own, so the history of a run is that of its
witness. -/

structure LogInclusionAudit where
  eventId : String
  tenantId : String
  runId : Option String
  ctxId : Option String
  registryAuthority : String
  verdict : InclusionVerdict
deriving DecidableEq, Repr

def toRow (ev : PublishEvent) (v : InclusionVerdict) : LogInclusionAudit :=
  ⟨ev.id, ev.tenantId, ev.runId, ev.ctxId, ev.registryAuthority, v⟩

structure AuditTables where
  witness : Db
  audits : List LogInclusionAudit

def AuditTables.record (tables : AuditTables) (row : LogInclusionAudit) : AuditTables :=
  if tables.audits.any (·.eventId = row.eventId) then tables
  else { tables with audits := tables.audits ++ [row] }

inductive AuditRun (sdk : Sdk) (auditSdk : InclusionSdk) :
    List (Action × Db) → AuditTables → Prop where
  | start : AuditRun sdk auditSdk [] ⟨Db.empty, []⟩
  | witness {history : List (Action × Db)} {tables : AuditTables} {action : Action} {db : Db}
      (run : AuditRun sdk auditSdk history tables) (step : Step sdk action tables.witness db) :
      AuditRun sdk auditSdk ((action, tables.witness) :: history) { tables with witness := db }
  | audit {history : List (Action × Db)} {tables : AuditTables}
      (run : AuditRun sdk auditSdk history tables) (env : InclusionEnv) (ev : PublishEvent) :
      AuditRun sdk auditSdk history
        (tables.record (toRow ev (auditEvent auditSdk env ev tables.witness)))

def Observed (sdk : Sdk) (history : List (Action × Db)) (tenantId : String)
    (checkpoint : LogCheckpoint) (key : String) : Prop :=
  ∃ cfg env enrollment db baseUrl, (Action.pass cfg env enrollment, db) ∈ history ∧
    enrollment.tenantId = tenantId ∧
    Presents sdk cfg (env.registry enrollment.authority) enrollment baseUrl checkpoint key

section Runs

variable {sdk : Sdk} {auditSdk : InclusionSdk} {history : List (Action × Db)} {tables : AuditTables}

theorem AuditRun.run (h : AuditRun sdk auditSdk history tables) : Run sdk history tables.witness := by
  induction h with
  | start => exact .start
  | witness _ hs ih => exact .step ih hs
  | audit _ env ev ih =>
    unfold AuditTables.record
    split
    · exact ih
    · exact ih

theorem observed_of_mem {db : Db} {row : LogWitnessCheckpoint} (hru : Run sdk history db)
    (hr : row ∈ db.checkpoints) :
    ∃ checkpoint key, checkpoint.head = row.checkpoint.head ∧
      Observed sdk history row.tenantId checkpoint key := by
  obtain ⟨verdict, cfg, env, enrollment, db', hp, hv, ⟨evidence, hev, hf⟩, -⟩ :=
    filedBy_of_run hru (List.mem_map_of_mem hr)
  rw [← hv] at hev
  obtain ⟨baseUrl, key, hpr, -⟩ := witnessVerdict_evidence hev
  refine ⟨evidence.checkpoint, key, congrArg Finding.head hf, ?_⟩
  exact ⟨cfg, env, enrollment, db', baseUrl, hp, congrArg Finding.tenantId hf, hpr⟩

/-- **Split views rest on signed evidence**, in every run in which no pass of the tenant is
presented another root for that log and size without a valid signature: a pass of the tenant has
then observed another root under a signature that verified. -/
theorem split_view_signed (sdk : Sdk) (auditSdk : InclusionSdk) {history : List (Action × Db)}
    {tables : AuditTables} (hrun : AuditRun sdk auditSdk history tables) {env : InclusionEnv}
    {ev : PublishEvent} {proof : InclusionProof} {checkpoint : LogCheckpoint}
    {witnessedRoot : String}
    (hexit : auditEventExit auditSdk env ev tables.witness =
      .ok (.splitView proof checkpoint witnessedRoot))
    (hsigned : ∀ c key, Observed sdk history ev.tenantId c key → c.Rivals checkpoint →
      verifyCheckpointSignature sdk.crypto c key = .ok ()) :
    ∃ c key, Observed sdk history ev.tenantId c key ∧ c.Rivals checkpoint ∧
      verifyCheckpointSignature sdk.crypto c key = .ok () := by
  obtain ⟨row, hrow, ht, hl, hs, hro⟩ := auditEventExit_splitView hexit
  obtain ⟨c, key, hh, ho⟩ := observed_of_mem hrun.run hrow
  rw [ht] at ho
  have hr : c.Rivals checkpoint := by
    have hp := Head.mk.inj hh
    refine ⟨hp.1.trans hl, hp.2.1.trans hs, ?_⟩
    rw [hp.2.2]
    exact hro
  exact ⟨c, key, ho, hr, hsigned c key ho hr⟩

def sampleRival (value : String) : LogCheckpoint :=
  { sampleHead 2 with
    rootHash := (sampleHead 1).rootHash
    signature := ⟨"ed25519", "did:web:r.example#k", value⟩ }

def sampleRivalSweep (value : String) : SweepEnv :=
  { sampleSweep 2 with
    registry := fun _ =>
      { sampleEnv 2 with get := fun _ => .ok ⟨200, .ok (sampleRival value).toJson⟩ } }

def sampleRivalAction (value : String) : Action :=
  .pass sampleConfig (sampleRivalSweep value) (sampleInput.newRow "")

def sampleRivalDb (value : String) : Db :=
  (sweepRegistry sampleSdk sampleConfig (sampleRivalSweep value) (sampleInput.newRow "")
    sampleEnrolled).2

def sampleInclusionSdk : InclusionSdk :=
  ⟨sampleSdk.crypto, sampleSdk.hasher, fun _ => default, none, stripFragment, fun _ => some 0⟩

def sampleInclusionEnv : InclusionEnv where
  nowMs := 0
  advertisesTransparencyLog := .ok (some true)
  registryBaseUrl := .ok (some "https://r.example")
  get _ := .ok ⟨200, .ok (.obj [("log_id", .str (sampleHead 2).logId), ("leaf_index", .num 0),
    ("tree_size", .num 2), ("inclusion_path", .arr []),
    ("log_checkpoint", (sampleHead 2).toJson)])⟩
  resolveReceiptKey _ := .ok "key"
  witnessedFault := none
  rowChoice := 0

def samplePublish : PublishEvent :=
  ⟨"e1", "default", none, some "c1", none, "did:web:a.example", "r.example", none,
    [("registry_receipt", .obj (leafFields.map fun f => (f, .str f)))]⟩

def InclusionExit.isSplitView (checkpoint : LogCheckpoint) (root : String) : InclusionExit → Bool
  | .splitView _ c r => c = checkpoint ∧ r = root
  | .verdict _ => false

theorem sampleRival_splitView (value : String) (hv : value ∈ ["key", "forged"]) :
    ∃ proof, auditEventExit sampleInclusionSdk sampleInclusionEnv samplePublish
      (sampleRivalDb value) = .ok (.splitView proof (sampleHead 2) (sampleRival value).rootHash) := by
  have hex : ∀ value ∈ ["key", "forged"], (auditEventExit sampleInclusionSdk sampleInclusionEnv
      samplePublish (sampleRivalDb value)).toOption.any
        (·.isSplitView (sampleHead 2) (sampleRival value).rootHash) = true := by
    decide +kernel
  have hm := hex value hv
  cases he : auditEventExit sampleInclusionSdk sampleInclusionEnv samplePublish
      (sampleRivalDb value) with
  | error err =>
    rw [he] at hm
    cases hm
  | ok exit =>
    rw [he] at hm
    cases exit with
    | verdict v => cases hm
    | splitView proof c root =>
      obtain ⟨rfl, rfl⟩ := of_decide_eq_true hm
      exact ⟨proof, rfl⟩

theorem auditRun_sampleRival (value : String) : AuditRun sampleSdk sampleInclusionSdk
    [(sampleRivalAction value, sampleEnrolled), (.enroll sampleInput "" .none, Db.empty)]
    ⟨sampleRivalDb value, []⟩ := by
  have hen : AuditRun sampleSdk sampleInclusionSdk
      [(.enroll sampleInput "" .none, Db.empty)] ⟨sampleEnrolled, []⟩ :=
    .witness .start (.enroll sampleInput "" .none)
  refine .witness hen (.pass sampleConfig (sampleRivalSweep value) (sampleInput.newRow "") ?_)
  exact ⟨_, List.mem_cons_self, rfl, rfl⟩

theorem observed_sampleRival {value : String} (hv : value ∈ ["key", "forged"]) {c : LogCheckpoint}
    {key : String} (ho : Observed sampleSdk
      [(sampleRivalAction value, sampleEnrolled), (.enroll sampleInput "" .none, Db.empty)]
      "default" c key) : c = sampleRival value ∧ key = "key" := by
  obtain ⟨cfg, env, enrollment, db, baseUrl, hm, -, hp⟩ := ho
  rcases List.mem_pair.mp hm with heq | heq
  · cases heq
    obtain ⟨resp, body, hg, -, hj, hpr⟩ := hp.served
    cases hg
    cases hj
    have hr : ∀ value ∈ ["key", "forged"], parseCheckpoint sampleSdk.dateParse
        (unwrapCheckpointEnvelope (sampleRival value).toJson).1 = .ok (.ok (sampleRival value)) := by
      decide +kernel
    rw [hr value hv] at hpr
    cases hpr
    have hk := hp.resolves
    cases hk
    exact ⟨rfl, rfl⟩
  · cases heq

theorem split_view_signed_sampleRival :
    ∃ c key, Observed sampleSdk [(sampleRivalAction "key", sampleEnrolled),
        (.enroll sampleInput "" .none, Db.empty)] "default" c key ∧
      c.Rivals (sampleHead 2) ∧ verifyCheckpointSignature sampleSdk.crypto c key = .ok () := by
  obtain ⟨proof, hex⟩ := sampleRival_splitView "key" (by simp)
  refine split_view_signed sampleSdk sampleInclusionSdk (auditRun_sampleRival "key") hex ?_
  intro c key ho _
  obtain ⟨rfl, rfl⟩ := observed_sampleRival (by simp) ho
  decide

/-- A split view that is read off a forged checkpoint: no pass has observed a signed root other than
that of the proof. -/
theorem split_view_unsigned : ∃ history db proof,
    AuditRun sampleSdk sampleInclusionSdk history ⟨db, []⟩ ∧
    auditEventExit sampleInclusionSdk sampleInclusionEnv samplePublish db =
      .ok (.splitView proof (sampleHead 2) (sampleRival "forged").rootHash) ∧
    ¬∃ c key, Observed sampleSdk history samplePublish.tenantId c key ∧
      c.Rivals (sampleHead 2) ∧ verifyCheckpointSignature sampleSdk.crypto c key = .ok () := by
  obtain ⟨proof, hex⟩ := sampleRival_splitView "forged" (by simp)
  refine ⟨_, sampleRivalDb "forged", proof, auditRun_sampleRival "forged", hex, ?_⟩
  rintro ⟨c, key, ho, -, hv⟩
  obtain ⟨rfl, rfl⟩ := observed_sampleRival (by simp) ho
  have hf : verifyCheckpointSignature sampleSdk.crypto (sampleRival "forged") "key" ≠
      .ok () := by decide
  exact hf hv

end Runs

end AcdpControlPlane
