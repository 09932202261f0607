import AcdpControlPlane.Witness.Sweep

/-!
# What one pass does to the retained heads

A registry has one retained head. Abstractly it is anchored once, and from then on it only moves
along accepted consistency proofs; `HeadMove` is that machine. A pass has some fifteen exits, and
which of them may touch the head is said once, in `witnessVerdict_witnessed` for the verdicts and
in `sweepRegistry_cases` for the writes. Everything about runs is derived from `PassEffect`.
-/

namespace AcdpControlPlane

/-! ## The abstract machine -/

abbrev Answers : Type := String → Except JsError FederationResponse

/-- Asked for a proof between the sizes of two heads, the registry answered with `proof`. -/
def Serves (answers : Answers) (prior next : Head) (proof : ConsistencyProof) : Prop :=
  ∃ baseUrl resp raw,
    answers (baseUrl ++ "/log/proof?first=" ++ toString prior.size ++ "&second=" ++
      toString next.size) = .ok resp ∧
    resp.json = .ok raw ∧ parseConsistencyProof raw = .ok proof

/-- The head `next` was accepted as a growth of `prior`: the served proof is between exactly their
sizes, and verified against the root of `prior`. -/
structure Accepts (sdk : Sdk) (answers : Answers) (prior next : Head) : Prop where
  log : next.logId = prior.logId
  grows : prior.size < next.size
  verified : ∃ proof checkpoint, Serves answers prior next proof ∧ checkpoint.head = next ∧
    proof.firstTreeSize = prior.size ∧ proof.secondTreeSize = next.size ∧
    verifyConsistency sdk.hasher sdk.logSurface proof checkpoint prior.root = .ok ()

inductive HeadMove (sdk : Sdk) (answers : Answers) : Option Head → Option Head → Prop where
  | hold (head : Option Head) : HeadMove sdk answers head head
  | anchor (head : Head) : HeadMove sdk answers none (some head)
  | grow {prior next : Head} (accepts : Accepts sdk answers prior next) :
      HeadMove sdk answers (some prior) (some next)

/-! ## The exits that retain a head -/

section Exits

variable {sdk : Sdk} {cfg : WitnessConfig} {env : RegistryEnv} {evidence : Option Evidence}
  {checkpoint c : LogCheckpoint} {quorum : QuorumResult} {baseUrl : String}

variable {prior : Head} {enrollment : RegistryEnrollment}
  {cursor : Except JsError (Option LogWitnessCursor)}

theorem proofShapeError_eq_none_iff {proof : ConsistencyProof} :
    proofShapeError prior checkpoint proof = none ↔
      proof.logId = checkpoint.logId ∧ proof.firstTreeSize = prior.size ∧
        proof.secondTreeSize = checkpoint.treeSize := by
  unfold proofShapeError
  split_ifs with hl hs
  · exact iff_of_false (by simp) fun h => hl h.1
  · refine iff_of_false (by simp) ?_
    rintro ⟨-, hf, hse⟩
    rcases hs with hn | hn
    · exact hn hf
    · exact hn hse
  · rw [not_or, not_not, not_not] at hs
    exact iff_of_true rfl ⟨not_not.mp hl, hs⟩

theorem foldVerdict_eq_ok_iff {parsed : Except String ConsistencyProof} :
    foldVerdict sdk prior checkpoint parsed = .ok () ↔
      ∃ proof, parsed = .ok proof ∧ proof.logId = checkpoint.logId ∧ proof.firstTreeSize = prior.size ∧
        proof.secondTreeSize = checkpoint.treeSize ∧
        verifyConsistency sdk.hasher sdk.logSurface proof checkpoint prior.root = .ok () := by
  cases parsed with
  | error reason => simp [foldVerdict]
  | ok proof =>
    have hsh := @proofShapeError_eq_none_iff checkpoint prior proof
    unfold foldVerdict
    dsimp only
    cases hc : proofShapeError prior checkpoint proof with
    | some reason =>
      refine iff_of_false nofun ?_
      rintro ⟨_, ho, hl, hf, hs, -⟩
      cases ho
      cases hc.symm.trans (hsh.mpr ⟨hl, hf, hs⟩)
    | none =>
      obtain ⟨hl, hf, hs⟩ := hsh.mp hc
      simp [hl, hf, hs]

theorem growthVerdict_witnessed
    (hv : growthVerdict sdk env baseUrl prior checkpoint quorum = .witnessed evidence c) :
    c = checkpoint ∧ evidence = some ⟨checkpoint, true, some true, quorum⟩ ∧
      ∃ proof, Serves env.get prior checkpoint.head proof ∧ proof.firstTreeSize = prior.size ∧
      proof.secondTreeSize = checkpoint.treeSize ∧
      verifyConsistency sdk.hasher sdk.logSurface proof checkpoint prior.root = .ok () := by
  unfold growthVerdict at hv
  dsimp only at hv
  split at hv
  · cases hv
  next resp hr =>
  split at hv
  · cases hv
  split at hv
  · cases hv
  next raw hra =>
  split at hv
  · cases hv
  next hf =>
  cases hv
  obtain ⟨proof, hpr, -, hp⟩ := foldVerdict_eq_ok_iff.mp hf
  exact ⟨rfl, rfl, proof, ⟨baseUrl, resp, raw, hr, hra, hpr⟩, hp⟩

theorem cursorVerdict_witnessed {prior : Option Head}
    (hv : cursorVerdict sdk env baseUrl prior checkpoint quorum = .witnessed evidence c) :
    c = checkpoint ∧ HeadMove sdk env.get prior (some checkpoint.head) ∧
      (evidence = none ∧ prior = some checkpoint.head ∨ ∃ consistencyOk, consistencyOk ≠ some false ∧
        evidence = some ⟨checkpoint, true, consistencyOk, quorum⟩) := by
  unfold cursorVerdict at hv
  split at hv
  · cases hv
    exact ⟨rfl, .anchor _, Or.inr ⟨none, nofun, rfl⟩⟩
  next prior =>
  split at hv
  · cases hv
  next hl =>
  split at hv
  · cases hv
  next hre =>
  split at hv
  · next hs =>
    split at hv
    · cases hv
    · next hr =>
      cases hv
      obtain rfl : checkpoint.head = prior := by
        rw [LogCheckpoint.head, not_not.mp hl, hs, not_not.mp hr]
      refine ⟨rfl, .hold _, ?_⟩
      split
      · exact Or.inr ⟨none, nofun, rfl⟩
      · exact Or.inl ⟨rfl, rfl⟩
  · next hg =>
    obtain ⟨rfl, hev, proof, hsv, hp⟩ := growthVerdict_witnessed hv
    refine ⟨rfl, .grow ⟨not_not.mp hl, ?_, proof, c, hsv, rfl, hp⟩,
      Or.inr ⟨some true, by simp, hev⟩⟩
    exact lt_of_le_of_ne (not_lt.mp hre) (Ne.symm hg)

/-- What holds of a checkpoint that a pass witnesses with this cursor row. -/
structure WitnessedBy (sdk : Sdk) (env : RegistryEnv) (authority : String)
    (cursor : Option LogWitnessCursor) (checkpoint : LogCheckpoint) : Prop where
  bound : ∃ did, authorityToDidWeb authority = some did ∧
    logIdRegistryDid checkpoint.logId = some did ∧
    sdk.stripFragment checkpoint.signature.keyId = did
  timely : checkpointTimestampOk sdk.dateParse checkpoint env.nowMs = .ok ()
  signed : ∃ key, env.resolveReceiptKey checkpoint.signature.keyId = .ok key ∧
    verifyCheckpointSignature sdk.crypto checkpoint key = .ok ()
  moves : HeadMove sdk env.get (cursor.bind LogWitnessCursor.head) (some checkpoint.head)

theorem checkRegistryBinding_eq_none {did : String}
    (hb : checkRegistryBinding sdk checkpoint did = none) :
    logIdRegistryDid checkpoint.logId = some did ∧
      sdk.stripFragment checkpoint.signature.keyId = did := by
  unfold checkRegistryBinding at hb
  dsimp only at hb
  split at hb
  · cases hb
  · next hl =>
    split at hb
    · cases hb
    · next hk => exact ⟨not_not.mp hl, not_not.mp hk⟩

/-- A pass is served a checkpoint that parses, belongs to the registry and is not from the future,
and the key that it names resolves. -/
structure Presents (sdk : Sdk) (cfg : WitnessConfig) (env : RegistryEnv)
    (enrollment : RegistryEnrollment) (baseUrl : String) (checkpoint : LogCheckpoint)
    (key : String) : Prop where
  included : enrollment.authority ∉ cfg.logWitnessExcludeAuthorities
  advertises : env.advertisesTransparencyLog = .ok (some true)
  resolved : resolveBaseUrl env enrollment = .ok (some baseUrl)
  reachable : baseUrl ≠ ""
  served : ∃ resp body, env.get (baseUrl ++ "/log/checkpoint") = .ok resp ∧
    resp.isSuccess = true ∧ resp.json = .ok body ∧
    parseCheckpoint sdk.dateParse (unwrapCheckpointEnvelope body).1 = .ok (.ok checkpoint)
  bound : ∃ did, authorityToDidWeb enrollment.authority = some did ∧
    checkRegistryBinding sdk checkpoint did = none
  timely : checkpointTimestampOk sdk.dateParse checkpoint env.nowMs = .ok ()
  resolves : env.resolveReceiptKey checkpoint.signature.keyId = .ok key

def presentedVerdict (sdk : Sdk) (env : RegistryEnv)
    (cursor : Except JsError (Option LogWitnessCursor)) (baseUrl : String)
    (checkpoint : LogCheckpoint) (key : String) (quorum : QuorumResult) : Verdict :=
  match verifyCheckpointSignature sdk.crypto checkpoint key with
  | .error reason =>
    .alert (some ⟨checkpoint, false, none, .null⟩) .checkpoint_signature_invalid
      (checkpointDetail reason checkpoint.toJson)
  | .ok () =>
    match cursor with
    | .error err => .crash err
    | .ok row => cursorVerdict sdk env baseUrl (row.bind LogWitnessCursor.head) checkpoint quorum

/-- The exits that record and retain nothing. -/
def Verdict.Bare : Verdict → Prop
  | .alert evidence _ _ => evidence = none
  | .witnessed _ _ => False
  | _ => True

theorem witnessVerdict_cases (sdk : Sdk) (cfg : WitnessConfig) (env : RegistryEnv)
    (enrollment : RegistryEnrollment) (cursor : Except JsError (Option LogWitnessCursor)) :
    (witnessVerdict sdk cfg env enrollment cursor).Bare ∨
      ∃ baseUrl checkpoint key quorum, Presents sdk cfg env enrollment baseUrl checkpoint key ∧
        witnessVerdict sdk cfg env enrollment cursor =
          presentedVerdict sdk env cursor baseUrl checkpoint key quorum := by
  unfold witnessVerdict
  split
  · exact Or.inl trivial
  next hi =>
  split
  · exact Or.inl trivial
  · exact Or.inl trivial
  · exact Or.inl trivial
  next ha =>
  split
  · exact Or.inl trivial
  · exact Or.inl trivial
  next baseUrl hre =>
  split
  · exact Or.inl trivial
  next hr =>
  split
  · exact Or.inl trivial
  next resp hg =>
  split
  · exact Or.inl trivial
  next hs =>
  split
  · exact Or.inl trivial
  next body hj =>
  dsimp only
  split
  · exact Or.inl trivial
  · exact Or.inl rfl
  next checkpoint hp =>
  unfold checkpointVerdict
  split
  · exact Or.inl trivial
  next did hd =>
  split
  · exact Or.inl rfl
  next hb =>
  split
  · exact Or.inl rfl
  next ht =>
  split
  · exact Or.inl trivial
  next key hk =>
  exact Or.inr ⟨baseUrl, checkpoint, key, _, ⟨hi, ha, hre, hr,
    ⟨resp, body, hg, by simpa using hs, hj, hp⟩, ⟨did, hd, hb⟩, ht,
    hk⟩, rfl⟩

theorem witnessVerdict_of_presents {key : String}
    (hp : Presents sdk cfg env enrollment baseUrl checkpoint key)
    (cursor : Except JsError (Option LogWitnessCursor)) :
    ∃ quorum, witnessVerdict sdk cfg env enrollment cursor =
      presentedVerdict sdk env cursor baseUrl checkpoint key quorum := by
  obtain ⟨hi, ha, hre, hr, ⟨resp, body, hg, hs, hj, hpr⟩,
    ⟨did, hd, hb⟩, ht, hk⟩ := hp
  refine ⟨consumeQuorumSafe (env.quorumEnv sdk) sdk.crypto cfg.quorum checkpoint
    (unwrapCheckpointEnvelope body).2, ?_⟩
  unfold witnessVerdict
  rw [if_neg hi, ha]
  rw [hre]
  dsimp only
  rw [if_neg hr, hg]
  dsimp only
  rw [hs, hj, if_neg (by simp)]
  dsimp only
  rw [hpr]
  unfold checkpointVerdict
  rw [hd]
  dsimp only
  rw [hb]
  rw [ht]
  rw [hk]
  rfl

theorem witnessVerdict_witnessed_cases
    (hv : witnessVerdict sdk cfg env enrollment cursor = .witnessed evidence c) :
    ∃ row baseUrl checkpoint key quorum, cursor = .ok row ∧
      Presents sdk cfg env enrollment baseUrl checkpoint key ∧
      verifyCheckpointSignature sdk.crypto checkpoint key = .ok () ∧
      cursorVerdict sdk env baseUrl (row.bind LogWitnessCursor.head) checkpoint quorum =
        .witnessed evidence c := by
  rcases witnessVerdict_cases sdk cfg env enrollment cursor with
    hb | ⟨baseUrl, checkpoint, key, quorum, hp, heq⟩
  · rw [hv] at hb
    exact hb.elim
  · rw [hv] at heq
    unfold presentedVerdict at heq
    split at heq
    · cases heq
    next hs =>
    split at heq
    · cases heq
    next row =>
    exact ⟨row, baseUrl, checkpoint, key, quorum, rfl, hp, hs, heq.symm⟩

theorem witnessVerdict_witnessed
    (hv : witnessVerdict sdk cfg env enrollment cursor = .witnessed evidence c) :
    ∃ row, cursor = .ok row ∧ WitnessedBy sdk env enrollment.authority row c := by
  obtain ⟨row, baseUrl, checkpoint, key, quorum, hr, hp, hs, hc⟩ :=
    witnessVerdict_witnessed_cases hv
  obtain ⟨rfl, hm, -⟩ := cursorVerdict_witnessed hc
  obtain ⟨did, hd, hb⟩ := hp.bound
  obtain ⟨hl, hk⟩ := checkRegistryBinding_eq_none hb
  exact ⟨row, hr, ⟨did, hd, hl, hk⟩, hp.timely, ⟨key, hp.resolves, hs⟩,
    hm⟩

/-! ## The writes -/

def LogCosignatureRow.head (row : LogCosignatureRow) : Head :=
  ⟨row.cosignature.witnessedCheckpoint.logId, row.cosignature.witnessedCheckpoint.treeSize,
    row.cosignature.witnessedCheckpoint.rootHash⟩

/-- The binding's mint copies the tuple it is asked to cosign. -/
def Sdk.MintsTuple (sdk : Sdk) : Prop :=
  ∀ surface, sdk.cosignSurface = some surface → ∀ wc witnessId seedHex witnessedAt cosig,
    surface.buildWitnessCosignature wc witnessId seedHex witnessedAt = .ok cosig →
      cosig.witnessedCheckpoint = wc

/-- The columns of the registry hold `head`, every other head is kept, and the cosignatures added
are of `head`. -/
structure Retains (sdk : Sdk) (tenantId authority : String) (head : Head) (db db' : Db) : Prop where
  enrollments : db'.enrollments = db.enrollments
  here : db'.headColumns tenantId authority = .ofHead (some head)
  elsewhere : ∀ t a, ¬(t = tenantId ∧ a = authority) → db'.headColumns t a = db.headColumns t a
  cosignatures : ∃ rows, db'.cosignatures = db.cosignatures ++ rows ∧ ∀ row ∈ rows,
    row.tenantId = tenantId ∧ row.registryAuthority = authority ∧
      (sdk.MintsTuple → row.head = head)

inductive PassEffect (sdk : Sdk) (answers : Answers) (tenantId authority : String) (db db' : Db) :
    Prop where
  | keeps (same : SameHeads db db')
  | retains (head : Head)
      (bound : ∃ did, authorityToDidWeb authority = some did ∧
        logIdRegistryDid head.logId = some did)
      (moves : HeadMove sdk answers (db.head tenantId authority) (some head))
      (writes : Retains sdk tenantId authority head db db')

variable {tenantId authority : String} {head : Head} {db db' db'' : Db} {P : Db → Prop}

theorem Retains.refl (hc : db.headColumns tenantId authority = .ofHead (some head)) :
    Retains sdk tenantId authority head db db :=
  ⟨rfl, hc, fun _ _ _ => rfl, [], (List.append_nil _).symm, fun _ hr => nomatch hr⟩

theorem Retains.trans (h : Retains sdk tenantId authority head db db')
    (h' : Retains sdk tenantId authority head db' db'') :
    Retains sdk tenantId authority head db db'' where
  enrollments := h'.enrollments.trans h.enrollments
  here := h'.here
  elsewhere t a hne := (h'.elsewhere t a hne).trans (h.elsewhere t a hne)
  cosignatures := by
    obtain ⟨rows, hrows, hall⟩ := h.cosignatures
    obtain ⟨rows', hrows', hall'⟩ := h'.cosignatures
    exact ⟨rows ++ rows', by rw [hrows', hrows, List.append_assoc],
      List.forall_mem_append.mpr ⟨hall, hall'⟩⟩

theorem Retains.sameHeads (h : Retains sdk tenantId authority head db db')
    (hs : SameHeads db' db'') : Retains sdk tenantId authority head db db'' :=
  h.trans ⟨hs.enrollments, (hs.columns _ _).trans h.here, fun t a _ => hs.columns t a, [],
    hs.cosignatures.trans (List.append_nil _).symm, fun _ hr => nomatch hr⟩

theorem mintCosignature_tuple (hm : sdk.MintsTuple) {crypto : Crypto} {wc : WitnessedCheckpoint}
    {witnessedAt ha : String} {signer : WitnessSigner} {cosig : LogCosignature}
    (h : mintCosignature sdk.cosignSurface crypto wc witnessedAt signer = .ok (cosig, ha)) :
    cosig.witnessedCheckpoint = wc := by
  have ht : ∀ {cosig ha}, tsMintCosignature crypto wc witnessedAt signer = .ok (cosig, ha) →
      cosig.witnessedCheckpoint = wc := by
    intro cosig ha ht
    unfold tsMintCosignature at ht
    split at ht
    · cases ht
    · cases ht
      rfl
  unfold mintCosignature at h
  split at h
  · next surface hs =>
    split at h
    · split at h
      · next minted hn =>
        cases h
        unfold nativeMintCosignature at hn
        split at hn
        · cases hn
        split at hn
        · cases hn
        next built hb =>
        split at hn
        · cases hn
        · cases hn
          exact hm surface hs _ _ _ _ _ hb
      · exact ht h
    · exact ht h
  · exact ht h

theorem persistEvidence_keeps (evidence : Option Evidence) (hd : P db)
    (hre : ∀ row db, P db → P (recordCheckpoint row db).2)
    (hu : ∀ key quorum db, P db → P (updateQuorum key quorum db).2) :
    P (persistEvidence env tenantId authority evidence db) := by
  cases evidence with
  | none => exact hd
  | some evidence =>
    unfold persistEvidence persistCheckpointSafe
    dsimp only
    have hr := env.faults.recordCheckpoint.run_snd hd (hre ⟨tenantId, authority,
      evidence.checkpoint, evidence.signatureValid, evidence.consistencyOk, evidence.quorum⟩ db hd)
    split
    · next recorded heq =>
      rw [heq] at hr
      split
      · exact Fault.run_snd _ hr (hu _ _ _ hr)
      · exact hr
    · next recorded heq =>
      rw [heq] at hr
      exact hr

theorem raiseAlert_keeps {reason : WitnessAlertReason} {detail : List (String × Json)}
    (hd : P db) (hm : P (markAlert tenantId authority reason (.obj detail) env.now db).2)
    (hem : ∀ event : AlertEvent, event.tenantId = tenantId → event.registryAuthority = authority →
      ∀ db, P db → P { db with alerts := db.alerts ++ [event] }) :
    P (raiseAlert env tenantId authority reason detail db).2 := by
  have hr := env.faults.markAlert.run_snd hd hm
  unfold raiseAlert
  split
  · next heq =>
    rw [heq] at hr
    exact hr
  · next heq =>
    rw [heq] at hr
    dsimp only
    split
    · exact hem _ rfl rfl _ hr
    · exact hr

theorem cosignSafe_keeps {checkpoint : LogCheckpoint} (hd : P db)
    (hr : ∀ signer cosig ha, mintCosignature sdk.cosignSurface sdk.crypto
        ⟨checkpoint.logId, checkpoint.treeSize, checkpoint.rootHash, checkpoint.timestamp⟩
        env.witnessedAt signer = .ok (cosig, ha) →
      P (recordCosignature ⟨tenantId, authority, cosig, ha⟩ db).2) :
    P (cosignSafe sdk cfg env tenantId authority checkpoint db) := by
  unfold cosignSafe
  split
  · exact hd
  split
  · exact hd
  split
  · exact hd
  next hm => exact Fault.run_snd _ hd (hr _ _ _ hm)

theorem retains_cosignSafe {checkpoint : LogCheckpoint}
    (hc : db.headColumns tenantId authority = .ofHead (some checkpoint.head)) :
    Retains sdk tenantId authority checkpoint.head db
      (cosignSafe sdk cfg env tenantId authority checkpoint db) := by
  refine cosignSafe_keeps (.refl hc) fun signer cosig ha hmi => ?_
  unfold recordCosignature
  split
  · exact .refl hc
  · refine ⟨rfl, hc, fun _ _ _ => rfl, [_], rfl, fun row hr => ?_⟩
    obtain rfl := List.mem_singleton.mp hr
    refine ⟨rfl, rfl, fun hm => ?_⟩
    rw [LogCosignatureRow.head, mintCosignature_tuple hm hmi, LogCheckpoint.head]

theorem enact_cases (sdk : Sdk) (cfg : WitnessConfig) (env : RegistryEnv)
    (tenantId authority : String) (verdict : Verdict) (db : Db) :
    SameHeads db (enact sdk cfg env tenantId authority verdict db).2 ∨
      ∃ evidence checkpoint, verdict = .witnessed evidence checkpoint ∧
        Retains sdk tenantId authority checkpoint.head db
          (enact sdk cfg env tenantId authority verdict db).2 := by
  have hk : ∀ evidence, SameHeads db (persistEvidence env tenantId authority evidence db) :=
    fun evidence => persistEvidence_keeps evidence (.refl db)
      (fun row _ h => h.trans (sameHeads_recordCheckpoint _ row))
      fun _ _ _ h => h.trans ⟨rfl, fun _ _ => rfl, rfl⟩
  cases verdict with
  | skipped reason => exact Or.inl (.refl db)
  | failure reason => exact Or.inl (sameHeads_run db _ (sameHeads_markFailure db _ _ _))
  | alert evidence reason detail =>
    exact Or.inl (raiseAlert_keeps (hk evidence)
      ((hk evidence).trans (sameHeads_markAlert _ _ _ _ _ _))
      fun _ _ _ _ h => h.trans ⟨rfl, fun _ _ => rfl, rfl⟩)
  | crash err => exact Or.inl (.refl db)
  | witnessed evidence checkpoint =>
    have hs := hk evidence
    have ha : Retains sdk tenantId authority checkpoint.head db (advanceCursor tenantId authority
        checkpoint.head env.now (persistEvidence env tenantId authority evidence db)).2 :=
      ⟨hs.enrollments, Db.headColumns_setCursor_self _ _ _ _,
        fun t a hn => (Db.headColumns_setCursor_of_ne _ _ hn).trans (hs.columns t a), [],
        hs.cosignatures.trans (List.append_nil _).symm, fun _ hr => nomatch hr⟩
    unfold enact
    -- the advance is lost, applied without being acknowledged, or applied and then cosigned
    cases env.faults.advanceCursor with
    | lost => exact Or.inl hs
    | unacknowledged => exact Or.inr ⟨evidence, checkpoint, rfl, ha⟩
    | none => exact Or.inr ⟨evidence, checkpoint, rfl, ha.trans (retains_cosignSafe ha.here)⟩

def readCursor (env : RegistryEnv) (enrollment : RegistryEnrollment) (db : Db) :
    Except JsError (Option LogWitnessCursor) :=
  match env.faults.getCursor with
  | some err => .error err
  | none => .ok (db.cursors enrollment.tenantId enrollment.authority)

theorem readCursor_eq_ok {enrollment : RegistryEnrollment} {row : Option LogWitnessCursor}
    (h : readCursor env enrollment db = .ok row) :
    row = db.cursors enrollment.tenantId enrollment.authority := by
  unfold readCursor at h
  split at h
  · cases h
  · cases h
    rfl

/-- The exit of a pass of a sweep, from what it meets outside and from the tables. -/
def passVerdict (sdk : Sdk) (cfg : WitnessConfig) (env : SweepEnv) (enrollment : RegistryEnrollment)
    (db : Db) : Verdict :=
  witnessVerdict sdk cfg (env.registry enrollment.authority) enrollment
    (readCursor (env.registry enrollment.authority) enrollment db)

theorem sweepRegistry_keeps (env : SweepEnv) (enrollment : RegistryEnrollment)
    (hen : P (enact sdk cfg (env.registry enrollment.authority) enrollment.tenantId
      enrollment.authority (passVerdict sdk cfg env enrollment db) db).2)
    (hf : ∀ now db, P db → P (markFailure enrollment.tenantId enrollment.authority now db).2) :
    P (sweepRegistry sdk cfg env enrollment db).2 := by
  unfold sweepRegistry
  change P (witnessRegistry sdk cfg (env.registry enrollment.authority) enrollment db).2 at hen
  split
  · next heq =>
    rw [heq] at hen
    exact hen
  · next heq =>
    rw [heq] at hen
    exact Fault.run_snd _ hen (hf _ _ hen)

/-- What a pass with this exit reports. A write that is not acknowledged makes it an error. -/
def Verdict.outcome (env : RegistryEnv) (authority : String) : Verdict → WitnessOutcome
  | .skipped reason => ⟨authority, .skipped, some reason⟩
  | .failure reason => ⟨authority, .error, some reason⟩
  | .alert _ reason _ =>
    if env.faults.markAlert = .none then ⟨authority, .alert, some reason.text⟩
    else ⟨authority, .error, some databaseError.message⟩
  | .witnessed _ _ =>
    if env.faults.advanceCursor = .none then ⟨authority, .witnessed, none⟩
    else ⟨authority, .error, some databaseError.message⟩
  | .crash err => ⟨authority, .error, some err.message⟩

/-- What a sweep makes of the result of a pass. -/
def reported (authority : String) : Except JsError WitnessOutcome → WitnessOutcome
  | .ok outcome => outcome
  | .error err => ⟨authority, .error, some err.message⟩

theorem reported_enact (sdk : Sdk) (cfg : WitnessConfig) (env : RegistryEnv)
    (tenantId authority : String) (verdict : Verdict) (db : Db) :
    reported authority (enact sdk cfg env tenantId authority verdict db).1 =
      verdict.outcome env authority := by
  cases verdict with
  | skipped reason => rfl
  | failure reason => rfl
  | crash err => rfl
  | alert evidence reason detail =>
    unfold enact raiseAlert Verdict.outcome
    cases env.faults.markAlert <;> rfl
  | witnessed evidence checkpoint =>
    unfold enact Verdict.outcome
    cases env.faults.advanceCursor <;> rfl

theorem sweepRegistry_outcome (sdk : Sdk) (cfg : WitnessConfig) (env : SweepEnv)
    (enrollment : RegistryEnrollment) (db : Db) :
    (sweepRegistry sdk cfg env enrollment db).1 =
      (passVerdict sdk cfg env enrollment db).outcome (env.registry enrollment.authority)
        enrollment.authority := by
  rw [← reported_enact sdk cfg _ enrollment.tenantId _ _ db]
  change _ = reported _ (witnessRegistry sdk cfg (env.registry enrollment.authority) enrollment db).1
  unfold sweepRegistry
  split <;> next heq => rw [heq, reported]

theorem sweepRegistry_cases (sdk : Sdk) (cfg : WitnessConfig) (env : SweepEnv)
    (enrollment : RegistryEnrollment) (db : Db) :
    SameHeads db (sweepRegistry sdk cfg env enrollment db).2 ∨
      ∃ evidence checkpoint,
        passVerdict sdk cfg env enrollment db = .witnessed evidence checkpoint ∧
        Retains sdk enrollment.tenantId enrollment.authority checkpoint.head db
          (sweepRegistry sdk cfg env enrollment db).2 := by
  refine sweepRegistry_keeps (P := fun db' => SameHeads db db' ∨ ∃ evidence checkpoint,
    _ = Verdict.witnessed evidence checkpoint ∧ Retains _ _ _ checkpoint.head db db') env enrollment
    (enact_cases sdk cfg _ _ _ _ db) fun now db' h => ?_
  have hf := sameHeads_markFailure db' enrollment.tenantId enrollment.authority now
  rcases h with hs | ⟨evidence, checkpoint, hv, hr⟩
  · exact Or.inl (hs.trans hf)
  · exact Or.inr ⟨evidence, checkpoint, hv, hr.sameHeads hf⟩

theorem sweepRegistry_effect (sdk : Sdk) (cfg : WitnessConfig) (env : SweepEnv)
    (enrollment : RegistryEnrollment) (db : Db) :
    PassEffect sdk (env.registry enrollment.authority).get enrollment.tenantId
      enrollment.authority db (sweepRegistry sdk cfg env enrollment db).2 := by
  rcases sweepRegistry_cases sdk cfg env enrollment db with
    hs | ⟨evidence, checkpoint, hv, hr⟩
  · exact .keeps hs
  · obtain ⟨row, hro, hw⟩ := witnessVerdict_witnessed hv
    obtain ⟨did, hd, hl, -⟩ := hw.bound
    have hm := hw.moves
    rw [readCursor_eq_ok hro] at hm
    exact .retains checkpoint.head ⟨did, hd, hl⟩ hm hr

end Exits

end AcdpControlPlane
