import AcdpControlPlane.Log.Exactness
import AcdpControlPlane.Witness.Exits

/-!
# The chain of retained heads

Runs of the witness. The steps of a run are the passes of a sweep and the two requests that write
the same tables, an acknowledgement and an enrollment. Passes are steps of their own because
requests come between them; that a sweep is a run of its passes is `sweep_reaches`. A pass is one
step: sweeps that overlap, which the advisory lock lets happen when a replica ticks while it sweeps
(`Lock.Sweep`), are not runs.
-/

namespace AcdpControlPlane

open Relation (ReflTransGen TransGen)

/-! ## Runs -/

def enrollRegistry (input : EnrollRegistryInput) (now : String) (db : Db) :
    Option RegistryEnrollment × Db :=
  ((db.enrollments.upsert input now).1,
    { db with enrollments := (db.enrollments.upsert input now).2 })

inductive Action where
  | pass (cfg : WitnessConfig) (env : SweepEnv) (enrollment : RegistryEnrollment)
  | acknowledge (tenantId authority acknowledgedBy now : String) (fault : Fault)
  | enroll (input : EnrollRegistryInput) (now : String) (fault : Fault)

/-- One action. The enrollment of a pass was listed by its sweep, and may have been patched since;
what it cannot have lost is its tenant. -/
inductive Step (sdk : Sdk) : Action → Db → Db → Prop where
  | pass {db : Db} (cfg : WitnessConfig) (env : SweepEnv) (enrollment : RegistryEnrollment)
      (enrolled : db.enrollments.Bound enrollment.authority enrollment.tenantId) :
      Step sdk (.pass cfg env enrollment) db (sweepRegistry sdk cfg env enrollment db).2
  | acknowledge {db : Db} (tenantId authority acknowledgedBy now : String) (fault : Fault) :
      Step sdk (.acknowledge tenantId authority acknowledgedBy now fault) db
        (fault.run db (acknowledgeAlert tenantId authority acknowledgedBy now)).2
  | enroll {db : Db} (input : EnrollRegistryInput) (now : String) (fault : Fault) :
      Step sdk (.enroll input now fault) db (fault.run db (enrollRegistry input now)).2

def Reaches (sdk : Sdk) : Db → Db → Prop :=
  ReflTransGen fun db db' => ∃ action, Step sdk action db db'

section Runs

variable {sdk : Sdk} {action : Action} {db db' : Db}

theorem PassEffect.enrollments {answers : Answers} {tenantId authority : String}
    (h : PassEffect sdk answers tenantId authority db db') : db'.enrollments = db.enrollments := by
  cases h with
  | keeps same => exact same.enrollments
  | retains _ _ _ writes => exact writes.enrollments

theorem sweepAll_reaches (cfg : WitnessConfig) (env : SweepEnv) (enrollments : List RegistryEnrollment)
    (db : Db) (hen : ∀ enrollment ∈ enrollments,
      db.enrollments.Bound enrollment.authority enrollment.tenantId) :
    Reaches sdk db (sweepAll sdk cfg env enrollments db).2 := by
  induction enrollments generalizing db with
  | nil => exact .refl
  | cons enrollment rest ih =>
    have hs : Step sdk (.pass cfg env enrollment) db _ :=
      .pass cfg env enrollment (hen _ List.mem_cons_self)
    refine ReflTransGen.head ⟨_, hs⟩ (ih _ fun next hn => ?_)
    rw [(sweepRegistry_effect sdk cfg env enrollment db).enrollments]
    exact hen next (List.mem_cons_of_mem _ hn)

theorem sweep_reaches (sdk : Sdk) (cfg : WitnessConfig) (env : SweepEnv) (db : Db) :
    Reaches sdk db (sweep sdk cfg env db).2 := by
  unfold sweep
  split
  · exact .refl
  split
  · exact .refl
  exact sweepAll_reaches cfg env _ db fun _ => EnrollmentTable.bound_of_mem_listAllEnabled

/-- A step that leaves the heads, the cosignatures and the tenants of the enrolled alone. -/
structure Quiet (db db' : Db) : Prop where
  columns : ∀ t a, db'.headColumns t a = db.headColumns t a
  cosignatures : db'.cosignatures = db.cosignatures
  bound : ∀ {t a}, db.enrollments.Bound a t → db'.enrollments.Bound a t

theorem SameHeads.quiet (h : SameHeads db db') : Quiet db db' :=
  ⟨h.columns, h.cosignatures, fun hb => h.enrollments ▸ hb⟩

theorem Quiet.head (h : Quiet db db') (t a : String) : db'.head t a = db.head t a := by
  rw [Db.head_eq_toHead, Db.head_eq_toHead, h.columns]

theorem step_cases (h : Step sdk action db db') :
    Quiet db db' ∨ ∃ cfg env enrollment head, action = .pass cfg env enrollment ∧
      db.enrollments.Bound enrollment.authority enrollment.tenantId ∧
      (∃ did, authorityToDidWeb enrollment.authority = some did ∧
        logIdRegistryDid head.logId = some did) ∧
      HeadMove sdk (env.registry enrollment.authority).get
        (db.head enrollment.tenantId enrollment.authority) (some head) ∧
      Retains sdk enrollment.tenantId enrollment.authority head db db' := by
  cases h with
  | pass cfg env enrollment enrolled =>
    cases sweepRegistry_effect sdk cfg env enrollment db with
    | keeps same => exact Or.inl same.quiet
    | retains head bound moves writes =>
      exact Or.inr ⟨cfg, env, enrollment, head, rfl, enrolled, bound, moves, writes⟩
  | acknowledge tenantId authority acknowledgedBy now fault =>
    exact Or.inl (sameHeads_run _ fault
      (sameHeads_acknowledgeAlert _ tenantId authority now acknowledgedBy)).quiet
  | enroll input now fault =>
    refine Or.inl (fault.run_snd (SameHeads.refl db).quiet ?_)
    exact ⟨fun _ _ => rfl, rfl, fun hb => EnrollmentTable.upsert_tenant input now hb⟩

end Runs

/-! ## Heads of one chain -/

/-- A consistency proof from the one head to the other was accepted. -/
def Link (sdk : Sdk) (prior next : Head) : Prop := ∃ answers, Accepts sdk answers prior next

section Links

variable {sdk : Sdk} {prior next : Head}

theorem logId_eq_of_links (h : ReflTransGen (Link sdk) prior next) : next.logId = prior.logId := by
  induction h with
  | refl => rfl
  | tail _ hl ih =>
    obtain ⟨answers, ha⟩ := hl
    exact ha.log.trans ih

theorem size_lt_of_links (h : TransGen (Link sdk) prior next) : prior.size < next.size := by
  induction h with
  | single hl =>
    obtain ⟨answers, ha⟩ := hl
    exact ha.grows
  | tail _ hl ih =>
    obtain ⟨answers, ha⟩ := hl
    exact ih.trans ha.grows

theorem eq_or_lt_of_links (h : ReflTransGen (Link sdk) prior next) :
    next = prior ∨ TransGen (Link sdk) prior next ∧ prior.size < next.size := by
  rcases Relation.reflTransGen_iff_eq_or_transGen.mp h with heq | hl
  · exact Or.inl heq
  · exact Or.inr ⟨hl, size_lt_of_links hl⟩

theorem HeadMove.links {answers : Answers} {head : Option Head}
    (h : HeadMove sdk answers (some prior) head) :
    ∃ next, head = some next ∧ ReflTransGen (Link sdk) prior next := by
  cases h with
  | hold => exact ⟨prior, rfl, .refl⟩
  | grow accepts => exact ⟨_, rfl, .single ⟨answers, accepts⟩⟩

end Links

/-! ## A registry and its log -/

def sampleSurface : CosignSurface where
  buildWitnessCosignature wc witnessId seedHex witnessedAt :=
    .ok ⟨witnessId, wc, witnessedAt, ⟨"ed25519", witnessId ++ "#witness-key-1", seedHex⟩⟩

/-- Signatures are the key that made them, and the log is `1, 2, 3`. -/
def sampleSdk : Sdk where
  crypto := ⟨fun _ => some "", id, fun key _ signature => key == signature⟩
  hasher := threeLeafHasher
  logSurface := none
  cosignSurface := some sampleSurface
  stripFragment := stripFragment
  dateParse _ := some 0

def sampleHead (n : ℕ) : LogCheckpoint :=
  ⟨"did:web:r.example/log/1", n, (Merkle.mth threeLeafHasher (threeLeaves.take n)).toWire,
    "2024-01-01T00:00:00.000Z", ⟨"ed25519", "did:web:r.example#k", "key"⟩⟩

def sampleProof (m n : ℕ) : Json :=
  .obj [("log_id", .str (sampleHead n).logId), ("first_tree_size", .num (JsNumber.ofNat m)),
    ("second_tree_size", .num (JsNumber.ofNat n)),
    ("consistency_path", .arr ((Merkle.consistencyProof threeLeafHasher m
      (threeLeaves.take n)).map (.str ·.toWire))),
    ("log_checkpoint", (sampleHead n).toJson)]

def sampleProofUrl (m n : ℕ) : String :=
  "https://r.example" ++ "/log/proof?first=" ++ toString m ++ "&second=" ++ toString n

/-- The registry `r.example` serves the prefix of size `n`, and the proofs to it. -/
def sampleEnv (n : ℕ) : RegistryEnv where
  nowMs := 0
  now := "2024-01-01T00:00:00.000Z"
  witnessedAt := "2024-01-01T00:00:00.000Z"
  advertisesTransparencyLog := .ok (some true)
  registryBaseUrl := .ok none
  get url :=
    match (List.range (n + 1)).find? fun m => url = sampleProofUrl m n with
    | some m => .ok ⟨200, .ok (sampleProof m n)⟩
    | none => .ok ⟨200, .ok (sampleHead n).toJson⟩
  resolveReceiptKey _ := .ok "key"
  resolveWitnessKey _ := .error ⟨"no witness"⟩
  faults := ⟨none, .none, .none, .none, .none, .none, .none⟩

def sampleSweep (n : ℕ) : SweepEnv :=
  ⟨true, none, fun _ => sampleEnv n, fun _ => "2024-01-01T00:00:00.000Z", fun _ => .none⟩

/-- The registry serves the prefix of size `n`, and has `answers` for every other request. -/
def sampleAnswering (n : ℕ) (answers : Answers) : SweepEnv :=
  { sampleSweep n with
    registry := fun _ =>
      { sampleEnv n with
        get := fun url =>
          if url = "https://r.example/log/checkpoint" then .ok ⟨200, .ok (sampleHead n).toJson⟩
          else answers url } }

def sampleConfig : WitnessConfig :=
  ⟨[], ⟨false, [], 1, none, 120⟩, true, some ⟨"did:web:w", "did:web:w#witness-key-1", some "seed", id⟩⟩

def sampleInput : EnrollRegistryInput :=
  ⟨"r.example", none, some (some "https://r.example"), none, none, none⟩

def sampleEnrolled : Db := (Fault.none.run Db.empty (enrollRegistry sampleInput "")).2

theorem resolveBaseUrl_sample (env : RegistryEnv) :
    resolveBaseUrl env (sampleInput.newRow "") = .ok (some "https://r.example") := by
  have hu : trimSlash "https://r.example" = "https://r.example" := by decide
  exact congrArg (fun url => Except.ok (some url)) hu

theorem presents_sampleAnswering (answers : Answers) :
    Presents sampleSdk sampleConfig ((sampleAnswering 2 answers).registry "r.example")
      (sampleInput.newRow "") "https://r.example" (sampleHead 2) "key" where
  included := by simp [sampleConfig]
  advertises := rfl
  resolved := resolveBaseUrl_sample _
  reachable := by decide
  served := by
    refine ⟨⟨200, .ok (sampleHead 2).toJson⟩, (sampleHead 2).toJson, ?_, rfl, rfl, ?_⟩
    · unfold sampleAnswering
      dsimp only
      rw [if_pos (by decide)]
    · decide +kernel
  bound := ⟨"did:web:r.example", by decide, by decide⟩
  timely := by
    show checkpointTimestampOk sampleSdk.dateParse (sampleHead 2) 0 = .ok ()
    decide
  resolves := rfl

theorem sampleHead_signed :
    verifyCheckpointSignature sampleSdk.crypto (sampleHead 2) "key" = .ok () := by
  decide

/-- The tables after a pass over the registry that serves the prefix of size `n`. -/
def samplePass (n : ℕ) (db : Db) : Db :=
  (sweepRegistry sampleSdk sampleConfig (sampleSweep n) (sampleInput.newRow "") db).2

theorem step_samplePass (n : ℕ) {db : Db} (hd : db.enrollments = sampleEnrolled.enrollments) :
    Step sampleSdk (.pass sampleConfig (sampleSweep n) (sampleInput.newRow "")) db
      (samplePass n db) := by
  refine .pass _ _ _ ?_
  rw [hd]
  exact ⟨_, List.mem_cons_self, rfl, rfl⟩

theorem samplePass_enrollments (n : ℕ) (db : Db) : (samplePass n db).enrollments = db.enrollments :=
  (sweepRegistry_effect sampleSdk sampleConfig (sampleSweep n) _ db).enrollments

def sampleAnchored : Db := samplePass 1 sampleEnrolled

def sampleGrown : Db := samplePass 2 sampleAnchored

theorem reaches_sampleAnchored : Reaches sampleSdk Db.empty sampleAnchored := by
  have hen : Step sampleSdk _ Db.empty sampleEnrolled := .enroll sampleInput "" .none
  exact ReflTransGen.tail (ReflTransGen.single ⟨_, hen⟩) ⟨_, step_samplePass 1 rfl⟩

theorem step_sampleGrown : Step sampleSdk
    (.pass sampleConfig (sampleSweep 2) (sampleInput.newRow "")) sampleAnchored sampleGrown :=
  step_samplePass 2 (samplePass_enrollments 1 _)

theorem sampleAnchored_columns :
    sampleAnchored.headColumns "default" "r.example" = .ofHead (some (sampleHead 1).head) := by
  decide +kernel

theorem sampleAnchored_head : sampleAnchored.head "default" "r.example" = some (sampleHead 1).head := by
  rw [Db.head_eq_toHead, sampleAnchored_columns, HeadColumns.toHead_ofHead]

theorem sampleGrown_columns :
    sampleGrown.headColumns "default" "r.example" = .ofHead (some (sampleHead 2).head) := by
  decide +kernel

/-! ## The cursor of a registry -/

section Cursor

variable {sdk : Sdk} {action : Action} {db db' : Db} {tenantId authority : String}

theorem Retains.head_here {head : Head} (h : Retains sdk tenantId authority head db db') :
    db'.head tenantId authority = some head := by
  rw [Db.head_eq_toHead, h.here, HeadColumns.toHead_ofHead]

theorem Retains.head_elsewhere {head : Head} (h : Retains sdk tenantId authority head db db')
    {t a : String} (hn : ¬(t = tenantId ∧ a = authority)) : db'.head t a = db.head t a := by
  rw [Db.head_eq_toHead, Db.head_eq_toHead, h.elsewhere t a hn]

theorem step_head (h : Step sdk action db db') (tenantId authority : String) :
    db'.headColumns tenantId authority = db.headColumns tenantId authority ∨
      ∃ cfg env enrollment head, action = .pass cfg env enrollment ∧
        enrollment.tenantId = tenantId ∧ enrollment.authority = authority ∧
        HeadMove sdk (env.registry authority).get (db.head tenantId authority) (some head) ∧
        db'.headColumns tenantId authority = .ofHead (some head) := by
  rcases step_cases h with hq | ⟨cfg, env, enrollment, head, rfl, -, -, hm, hr⟩
  · exact Or.inl (hq.columns tenantId authority)
  · by_cases hk : tenantId = enrollment.tenantId ∧ authority = enrollment.authority
    · obtain ⟨rfl, rfl⟩ := hk
      exact Or.inr ⟨cfg, env, enrollment, head, rfl, rfl, rfl, hm, hr.here⟩
    · exact Or.inl (hr.elsewhere tenantId authority hk)

/-- The head columns of every cursor are all null or all set. -/
def Whole (db : Db) : Prop := ∀ t a, db.headColumns t a = .ofHead (db.head t a)

theorem whole_of_reaches (h : Reaches sdk Db.empty db) : Whole db := by
  induction h with
  | refl => exact fun _ _ => rfl
  | tail _ hs ih =>
    obtain ⟨action, hs⟩ := hs
    intro t a
    rw [Db.head_eq_toHead]
    rcases step_head hs t a with hc | ⟨-, -, -, head, -, -, -, -, hc⟩
    · rw [hc, ih t a, HeadColumns.toHead_ofHead]
    · rw [hc, HeadColumns.toHead_ofHead]

theorem step_links {prior : Head} (h : Step sdk action db db')
    (hp : db.head tenantId authority = some prior) :
    ∃ next, db'.head tenantId authority = some next ∧ ReflTransGen (Link sdk) prior next := by
  rcases step_head h tenantId authority with
    hc | ⟨_, _, _, head, -, -, -, hm, hc⟩
  · refine ⟨prior, ?_, .refl⟩
    rw [Db.head_eq_toHead, hc, ← Db.head_eq_toHead, hp]
  · rw [hp] at hm
    obtain ⟨next, hn, hl⟩ := hm.links
    refine ⟨next, ?_, hl⟩
    rw [Db.head_eq_toHead, hc, HeadColumns.toHead_ofHead, hn]

theorem reaches_links {prior : Head} (h : Reaches sdk db db')
    (hp : db.head tenantId authority = some prior) :
    ∃ next, db'.head tenantId authority = some next ∧ ReflTransGen (Link sdk) prior next := by
  induction h with
  | refl => exact ⟨prior, hp, .refl⟩
  | tail _ hs ih =>
    obtain ⟨action, hs⟩ := hs
    obtain ⟨middle, hm, hl⟩ := ih
    obtain ⟨next, hn, hl'⟩ := step_links hs hm
    exact ⟨next, hn, hl.trans hl'⟩

theorem Whole.exists_head (hw : Whole db) (hs : (db.headColumns tenantId authority).logId.isSome ∨
      (db.headColumns tenantId authority).lastWitnessedSize.isSome ∨
      (db.headColumns tenantId authority).lastRootHash.isSome) :
    ∃ head, db.head tenantId authority = some head ∧
      db.headColumns tenantId authority = .ofHead (some head) := by
  rw [hw] at hs ⊢
  cases hh : db.head tenantId authority with
  | none =>
    rw [hh] at hs
    rcases hs with hs | hs | hs <;> cases hs
  | some head => exact ⟨head, rfl, rfl⟩

theorem columns_of_reaches {prior : Head} (hd : Reaches sdk Db.empty db)
    (hr : Reaches sdk db db') (hp : db.head tenantId authority = some prior) :
    ∃ next, ReflTransGen (Link sdk) prior next ∧
      db'.headColumns tenantId authority = .ofHead (some next) := by
  obtain ⟨next, hn, hl⟩ := reaches_links hr hp
  refine ⟨next, hl, ?_⟩
  rw [whole_of_reaches (ReflTransGen.trans hd hr), hn]

/-- **The cursor of a registry.** Once it is set, its log id stays and its size does not decrease,
in any run. A step that changes it at all is a pass over that registry in which a proof between
exactly the two sizes verified against the root retained before. Alerts, failures and
acknowledgements never write the head columns, of this cursor or of any other. -/
theorem cursor_chain (sdk : Sdk) (tenantId authority : String) {db : Db}
    (hdb : Reaches sdk Db.empty db) :
    (∀ db', Reaches sdk db db' →
      (∀ logId, (db.headColumns tenantId authority).logId = some logId →
        (db'.headColumns tenantId authority).logId = some logId) ∧
      (∀ m, (db.headColumns tenantId authority).lastWitnessedSize = some m →
        ∃ n, m ≤ n ∧ (db'.headColumns tenantId authority).lastWitnessedSize = some n)) ∧
    (∀ action db', Step sdk action db db' →
      ∀ root, (db.headColumns tenantId authority).lastRootHash = some root →
      db'.headColumns tenantId authority ≠ db.headColumns tenantId authority →
      ∃ cfg env enrollment prior next, action = .pass cfg env enrollment ∧
        enrollment.tenantId = tenantId ∧ enrollment.authority = authority ∧
        db.headColumns tenantId authority = .ofHead (some prior) ∧
        db'.headColumns tenantId authority = .ofHead (some next) ∧
        Accepts sdk (env.registry authority).get prior next) ∧
    (∀ (fault : Fault) t a reason detail acknowledgedBy now,
      (fault.run db (markAlert t a reason detail now)).2.headColumns tenantId authority =
        db.headColumns tenantId authority ∧
      (fault.run db (markFailure t a now)).2.headColumns tenantId authority =
        db.headColumns tenantId authority ∧
      (fault.run db (acknowledgeAlert t a acknowledgedBy now)).2.headColumns tenantId authority =
        db.headColumns tenantId authority) := by
  have hwh := whole_of_reaches hdb
  refine ⟨fun db' hrun => ⟨?_, ?_⟩, ?_, ?_⟩
  · intro logId hlid
    obtain ⟨prior, hpri, hcols⟩ := hwh.exists_head (Or.inl (Option.isSome_of_eq_some hlid))
    obtain ⟨next, hlnk, hnext⟩ := columns_of_reaches hdb hrun hpri
    rw [hcols] at hlid
    rw [hnext, ← hlid]
    exact congrArg some (logId_eq_of_links hlnk)
  · intro m hsize
    obtain ⟨prior, hpri, hcols⟩ :=
      hwh.exists_head (Or.inr (Or.inl (Option.isSome_of_eq_some hsize)))
    obtain ⟨next, hlnk, hnext⟩ := columns_of_reaches hdb hrun hpri
    rw [hcols] at hsize
    obtain rfl : prior.size = m := Option.some.inj hsize
    refine ⟨next.size, ?_, by rw [hnext]; rfl⟩
    rcases eq_or_lt_of_links hlnk with rfl | ⟨-, hlt⟩
    · exact le_rfl
    · exact hlt.le
  · intro action db' hstep root hroot hchg
    obtain ⟨prior, hpri, hcols⟩ :=
      hwh.exists_head (Or.inr (Or.inr (Option.isSome_of_eq_some hroot)))
    rcases step_head hstep tenantId authority with
      hsame | ⟨cfg, env, enrollment, next, rfl, rfl, rfl, hmv, hnext⟩
    · exact absurd hsame hchg
    · rw [hpri] at hmv
      -- a move that holds the head changes no column
      cases hmv with
      | hold => exact absurd (hnext.trans hcols.symm) hchg
      | grow accepts =>
        exact ⟨cfg, env, enrollment, prior, next, rfl, rfl, rfl, hcols, hnext, accepts⟩
  · intro fault t a reason detail acknowledgedBy now
    exact ⟨(sameHeads_run db fault (sameHeads_markAlert db t a now reason detail)).columns _ _,
      (sameHeads_run db fault (sameHeads_markFailure db t a now)).columns _ _,
      (sameHeads_run db fault (sameHeads_acknowledgeAlert db t a now acknowledgedBy)).columns _ _⟩

theorem cursor_chain_sampleGrown :
    sampleAnchored.headColumns "default" "r.example" = .ofHead (some (sampleHead 1).head) ∧
      sampleGrown.headColumns "default" "r.example" = .ofHead (some (sampleHead 2).head) ∧
      Accepts sampleSdk (sampleEnv 2).get (sampleHead 1).head (sampleHead 2).head := by
  refine ⟨sampleAnchored_columns, sampleGrown_columns, ?_⟩
  obtain ⟨cfg, env, enrollment, prior, next, hac, -, -, hp, hn, ha⟩ :=
    (cursor_chain sampleSdk "default" "r.example" reaches_sampleAnchored).2.1 _ _ step_sampleGrown
      (sampleHead 1).rootHash (by rw [sampleAnchored_columns]; rfl)
      (by rw [sampleGrown_columns, sampleAnchored_columns]; decide)
  cases hac
  rw [sampleAnchored_columns] at hp
  rw [sampleGrown_columns] at hn
  have hh : ∀ {head head' : Head}, HeadColumns.ofHead (some head) = .ofHead (some head') →
      head = head' := by
    intro head head' heq
    simpa using congrArg HeadColumns.toHead heq
  rw [hh hp, hh hn]
  exact ha

/-! ## Cosignatures -/

/-- The invariant of the cosignatures. Each is of a log of the registry it is filed under, and its
head is linked to the one that registry's cursor retains; so the heads cosigned for one registry
are all linked to each other. -/
structure Ledger (sdk : Sdk) (db : Db) : Prop where
  bound : ∀ row ∈ db.cosignatures, db.enrollments.Bound row.registryAuthority row.tenantId
  log : ∀ row ∈ db.cosignatures, ∃ did, authorityToDidWeb row.registryAuthority = some did ∧
    logIdRegistryDid row.head.logId = some did
  current : ∀ row ∈ db.cosignatures, ∃ head, db.head row.tenantId row.registryAuthority = some head ∧
    ReflTransGen (Link sdk) row.head head
  linked : ∀ row ∈ db.cosignatures, ∀ row' ∈ db.cosignatures, row.tenantId = row'.tenantId →
    row.registryAuthority = row'.registryAuthority →
    ReflTransGen (Link sdk) row.head row'.head ∨ ReflTransGen (Link sdk) row'.head row.head

variable {head : Head}

theorem ledger_empty (sdk : Sdk) : Ledger sdk Db.empty where
  bound _ hr := nomatch hr
  log _ hr := nomatch hr
  current _ hr := nomatch hr
  linked _ hr := nomatch hr

theorem Ledger.quiet (hl : Ledger sdk db) (h : Quiet db db') : Ledger sdk db' where
  bound row hr := h.bound (hl.bound row (h.cosignatures ▸ hr))
  log row hr := hl.log row (h.cosignatures ▸ hr)
  current row hr := by
    rw [h.head]
    exact hl.current row (h.cosignatures ▸ hr)
  linked row hr row' hr' :=
    hl.linked row (h.cosignatures ▸ hr) row' (h.cosignatures ▸ hr')

theorem Ledger.links_of_retains {answers : Answers} (hle : Ledger sdk db)
    (hm : HeadMove sdk answers (db.head tenantId authority) (some head))
    {row : LogCosignatureRow} (hr : row ∈ db.cosignatures) (ht : row.tenantId = tenantId)
    (ha : row.registryAuthority = authority) : ReflTransGen (Link sdk) row.head head := by
  obtain ⟨prior, hp, hl⟩ := hle.current row hr
  rw [ht, ha] at hp
  rw [hp] at hm
  obtain ⟨next, hn, hl'⟩ := hm.links
  obtain rfl := Option.some.inj hn
  exact hl.trans hl'

theorem Ledger.retains {answers : Answers} (hmi : sdk.MintsTuple) (hl : Ledger sdk db)
    (hen : db.enrollments.Bound authority tenantId)
    (hb : ∃ did, authorityToDidWeb authority = some did ∧
      logIdRegistryDid head.logId = some did)
    (hm : HeadMove sdk answers (db.head tenantId authority) (some head))
    (hre : Retains sdk tenantId authority head db db') : Ledger sdk db' := by
  obtain ⟨rows, hro, hn⟩ := hre.cosignatures
  -- a row was there before, or is a new one of the retained head
  have hc : ∀ row ∈ db'.cosignatures, row ∈ db.cosignatures ∨
      row.tenantId = tenantId ∧ row.registryAuthority = authority ∧ row.head = head := by
    intro row hr
    rw [hro, List.mem_append] at hr
    refine hr.imp_right fun hr => ?_
    obtain ⟨hte, hau, hh⟩ := hn row hr
    exact ⟨hte, hau, hh hmi⟩
  refine ⟨?_, ?_, ?_, ?_⟩
  · intro row hr
    rw [hre.enrollments]
    rcases hc row hr with ho | ⟨rfl, rfl, -⟩
    · exact hl.bound row ho
    · exact hen
  · intro row hr
    rcases hc row hr with ho | ⟨-, rfl, rfl⟩
    · exact hl.log row ho
    · exact hb
  · intro row hr
    by_cases hk : row.tenantId = tenantId ∧ row.registryAuthority = authority
    · refine ⟨head, by rw [hk.1, hk.2, hre.head_here], ?_⟩
      rcases hc row hr with ho | ⟨-, -, rfl⟩
      · exact hl.links_of_retains hm ho hk.1 hk.2
      · exact .refl
    · rcases hc row hr with ho | ⟨hte, hau, -⟩
      · rw [hre.head_elsewhere hk]
        exact hl.current row ho
      · exact absurd ⟨hte, hau⟩ hk
  · intro row hr row' hr' hte hau
    rcases hc row hr with ho | ⟨ht, ha, rfl⟩
    · rcases hc row' hr' with ho' | ⟨ht', ha', rfl⟩
      · exact hl.linked row ho row' ho' hte hau
      · exact Or.inl (hl.links_of_retains hm ho (hte.trans ht')
          (hau.trans ha'))
    · rcases hc row' hr' with ho' | ⟨-, -, hh'⟩
      · exact Or.inr (hl.links_of_retains hm ho' (hte.symm.trans ht)
          (hau.symm.trans ha))
      · exact Or.inl (hh' ▸ .refl)

theorem ledger_of_reaches (hm : sdk.MintsTuple) (h : Reaches sdk Db.empty db) : Ledger sdk db := by
  induction h with
  | refl => exact ledger_empty sdk
  | tail _ hs ih =>
    obtain ⟨action, hs⟩ := hs
    rcases step_cases hs with hq | ⟨_, _, _, _, -, hen, hb, hmv, hr⟩
    · exact ih.quiet hq
    · exact ih.retains hm hen hb hmv hr

theorem Ledger.same_registry (hle : Ledger sdk db) {row row' : LogCosignatureRow}
    (hr : row ∈ db.cosignatures) (hr' : row' ∈ db.cosignatures)
    (hlo : row.head.logId = row'.head.logId) :
    row.tenantId = row'.tenantId ∧ row.registryAuthority = row'.registryAuthority := by
  obtain ⟨did, hd, hl⟩ := hle.log row hr
  obtain ⟨did', hd', hl'⟩ := hle.log row' hr'
  obtain rfl : did' = did := by
    rw [hlo] at hl
    exact Option.some.inj (hl'.symm.trans hl)
  have ha := authorityToDidWeb_injective hd hd'
  have hb := hle.bound row hr
  rw [ha] at hb
  exact ⟨hb.unique (hle.bound row' hr'), ha⟩

/-- The cosignature that the sample registry's head of size `n` gets. -/
def sampleCosignature (n : ℕ) : LogCosignatureRow :=
  ⟨"default", "r.example", ⟨"did:web:w", ⟨(sampleHead n).logId, n, (sampleHead n).rootHash,
    (sampleHead n).timestamp⟩, "2024-01-01T00:00:00.000Z",
    ⟨"ed25519", "did:web:w#witness-key-1", "seed"⟩⟩, "sha256:"⟩

end Cursor

end AcdpControlPlane
