import AcdpControlPlane.Witness.Chain

/-!
# What a registry can make of a growth

The registry is the adversary here. It presents a signed checkpoint that is larger than the retained
head, and answers the request for a consistency proof with a success and a body of its choice. The
pass should then either accept the growth or accuse the registry; counting a failure would let a
rewritten log pass for an outage.
-/

namespace AcdpControlPlane

/-- The body is the proof that was asked for: it parses, is of the log and between the sizes, and
verifies against the retained root. -/
def Demanded (sdk : Sdk) (prior : Head) (checkpoint : LogCheckpoint) (body : Except JsError Json) :
    Prop :=
  ∃ raw proof, body = .ok raw ∧ parseConsistencyProof raw = .ok proof ∧
    proof.logId = checkpoint.logId ∧ proof.firstTreeSize = prior.size ∧
    proof.secondTreeSize = checkpoint.treeSize ∧
    verifyConsistency sdk.hasher sdk.logSurface proof checkpoint prior.root = .ok ()

def proofUrl (baseUrl : String) (first second : ℕ) : String :=
  baseUrl ++ "/log/proof?first=" ++ toString first ++ "&second=" ++ toString second

/-- The answer of the federation client to a request that the registry answers with `resp`. -/
def answerOf (url : String) (resp : RegistryResponse) : Except JsError FederationResponse :=
  (readCapped url resp).mapError fun err => ⟨err.message⟩

section Verdicts

variable {sdk : Sdk} {env : RegistryEnv} {baseUrl : String} {prior : Head}
  {checkpoint : LogCheckpoint} {resp : RegistryResponse}

theorem growthVerdict_cases (sdk : Sdk) (quorum : QuorumResult)
    (hg : env.get (proofUrl baseUrl prior.size checkpoint.treeSize) =
      answerOf (proofUrl baseUrl prior.size checkpoint.treeSize) resp)
    (hst : 200 ≤ resp.status ∧ resp.status < 300) :
    (Demanded sdk prior checkpoint resp.json ∧ resp.Fits ∧ ∃ evidence,
      growthVerdict sdk env baseUrl prior checkpoint quorum = .witnessed evidence checkpoint) ∨
    (¬Demanded sdk prior checkpoint resp.json ∧ resp.Fits ∧ (∃ raw, resp.json = .ok raw) ∧
      ∃ evidence detail, growthVerdict sdk env baseUrl prior checkpoint quorum =
        .alert evidence .consistency_failed detail) ∨
    (¬(resp.Fits ∧ ∃ raw, resp.json = .ok raw) ∧ ∃ reason,
      growthVerdict sdk env baseUrl prior checkpoint quorum = .failure reason) := by
  unfold growthVerdict
  rw [show baseUrl ++ "/log/proof?first=" ++ toString prior.size ++ "&second=" ++
    toString checkpoint.treeSize = proofUrl baseUrl prior.size checkpoint.treeSize from rfl, hg,
    answerOf]
  rcases readCapped_eq (proofUrl baseUrl prior.size checkpoint.treeSize) resp with
    ⟨hf, hr⟩ | ⟨hf, err, hr⟩
  · rw [hr]
    dsimp only [Except.mapError]
    have hs : (FederationResponse.mk resp.status resp.json).isSuccess = true := by
      simpa [FederationResponse.isSuccess] using hst
    rw [hs, if_neg (by simp)]
    cases hj : resp.json with
    | error err =>
      -- a body that is not JSON is a failure, not an alert
      refine Or.inr (Or.inr ⟨?_, _, rfl⟩)
      rintro ⟨-, raw, hra⟩
      cases hra
    | ok raw =>
      dsimp only
      split
      · next reason hfo =>
        refine Or.inr (Or.inl ⟨?_, hf, ⟨raw, rfl⟩, _, _, rfl⟩)
        intro hd
        obtain ⟨raw', proof, hra, hp⟩ := hd
        cases hra
        rw [foldVerdict_eq_ok_iff.mpr ⟨proof, hp⟩] at hfo
        cases hfo
      · next hfo =>
        obtain ⟨proof, hp⟩ := foldVerdict_eq_ok_iff.mp hfo
        exact Or.inl ⟨⟨raw, proof, rfl, hp⟩, hf, _, rfl⟩
  · rw [hr]
    exact Or.inr (Or.inr ⟨fun h => hf h.1, _, rfl⟩)

end Verdicts

section Passes

variable {sdk : Sdk} {cfg : WitnessConfig} {env : SweepEnv} {enrollment : RegistryEnrollment}
  {db : Db} {baseUrl key : String} {checkpoint : LogCheckpoint} {prior : Head}
  {resp : RegistryResponse}

theorem passVerdict_of_growth
    (hp : Presents sdk cfg (env.registry enrollment.authority) enrollment baseUrl checkpoint
      key) (hs : verifyCheckpointSignature sdk.crypto checkpoint key = .ok ())
    (hpr : db.head enrollment.tenantId enrollment.authority = some prior)
    (hl : checkpoint.logId = prior.logId) (hg : prior.size < checkpoint.treeSize) :
    (∃ err, (env.registry enrollment.authority).faults.getCursor = some err ∧
      passVerdict sdk cfg env enrollment db = .crash err) ∨
    ((env.registry enrollment.authority).faults.getCursor = none ∧ ∃ quorum,
      passVerdict sdk cfg env enrollment db =
        growthVerdict sdk (env.registry enrollment.authority) baseUrl prior checkpoint quorum) := by
  obtain ⟨quorum, hv⟩ := witnessVerdict_of_presents hp
    (readCursor (env.registry enrollment.authority) enrollment db)
  rw [passVerdict, hv]
  unfold presentedVerdict readCursor
  rw [hs]
  cases (env.registry enrollment.authority).faults.getCursor with
  | some err => exact Or.inl ⟨err, rfl, rfl⟩
  | none =>
    refine Or.inr ⟨rfl, quorum, ?_⟩
    dsimp only
    rw [show (db.cursors enrollment.tenantId enrollment.authority).bind LogWitnessCursor.head =
      some prior from hpr]
    -- the heads are of one log, and the new one is neither smaller nor of the same size
    unfold cursorVerdict
    dsimp only
    rw [if_neg (not_not.mpr hl), if_neg hg.not_gt, if_neg hg.ne']

theorem head_of_not_witnessed (h : ∀ evidence checkpoint,
      passVerdict sdk cfg env enrollment db ≠ .witnessed evidence checkpoint) (t a : String) :
    (sweepRegistry sdk cfg env enrollment db).2.head t a = db.head t a := by
  rcases sweepRegistry_cases sdk cfg env enrollment db with
    hs | ⟨evidence, checkpoint, hv, -⟩
  · exact hs.head t a
  · exact absurd hv (h evidence checkpoint)

/-- What must become of a growth: it is witnessed exactly if the body is the proof that was asked for,
and else the registry is accused and the head kept. -/
def Judges (sdk : Sdk) (prior : Head) (checkpoint : LogCheckpoint) (body : Except JsError Json)
    (authority : String) (outcome : WitnessOutcome) (head : Option Head) : Prop :=
  (outcome.status = .witnessed ↔ Demanded sdk prior checkpoint body) ∧
    (¬Demanded sdk prior checkpoint body →
      outcome = ⟨authority, .alert, some "consistency_failed"⟩ ∧ head = some prior)

theorem not_judges_of_error {body : Except JsError Json} {authority : String}
    {reason : Option String} {hea : Option Head} :
    ¬Judges sdk prior checkpoint body authority ⟨authority, .error, reason⟩ hea := by
  rintro ⟨hw, ha⟩
  by_cases hd : Demanded sdk prior checkpoint body
  · cases hw.mpr hd
  · cases (ha hd).1

/-- **The exits of a growth.** A signed checkpoint of the retained log is larger than the retained
head, and the registry answers the request for the proof with a success. The pass judges the answer
precisely if the body fits the cap of the client and is JSON, and the statements that the pass runs
succeed. -/
theorem growth_exits
    (hpresents : Presents sdk cfg (env.registry enrollment.authority) enrollment baseUrl checkpoint
      key)
    (hsigned : verifyCheckpointSignature sdk.crypto checkpoint key = .ok ())
    (hprior : db.head enrollment.tenantId enrollment.authority = some prior)
    (hlog : checkpoint.logId = prior.logId) (hgrows : prior.size < checkpoint.treeSize)
    (hget : (env.registry enrollment.authority).get
        (proofUrl baseUrl prior.size checkpoint.treeSize) =
      answerOf (proofUrl baseUrl prior.size checkpoint.treeSize) resp)
    (hstatus : 200 ≤ resp.status ∧ resp.status < 300) :
    Judges sdk prior checkpoint resp.json enrollment.authority
        (sweepRegistry sdk cfg env enrollment db).1
        ((sweepRegistry sdk cfg env enrollment db).2.head enrollment.tenantId
          enrollment.authority) ↔
      (resp.Fits ∧ ∃ raw, resp.json = .ok raw) ∧
        (env.registry enrollment.authority).faults.getCursor = none ∧
        (Demanded sdk prior checkpoint resp.json →
          (env.registry enrollment.authority).faults.advanceCursor = .none) ∧
        (¬Demanded sdk prior checkpoint resp.json →
          (env.registry enrollment.authority).faults.markAlert = .none) := by
  rw [sweepRegistry_outcome]
  rcases passVerdict_of_growth hpresents hsigned hprior hlog hgrows with
    ⟨err, hc, hv⟩ | ⟨hc, quorum, hv⟩
  · rw [hv]
    refine iff_of_false not_judges_of_error ?_
    rintro ⟨-, hn, -⟩
    rw [hc] at hn
    cases hn
  rw [hv]
  rcases growthVerdict_cases sdk quorum hget hstatus with
    ⟨hd, hfi, evidence, hg⟩ | ⟨hd, hfi, hj, evidence, detail, hg⟩ |
    ⟨hb, reason, hg⟩
  · -- the body is the proof: what remains is whether the head is retained
    rw [hg, Verdict.outcome]
    obtain ⟨raw, -, hj, -⟩ := id hd
    split
    · next hf =>
      refine iff_of_true ⟨iff_of_true rfl hd, fun h => absurd hd h⟩ ?_
      exact ⟨⟨hfi, raw, hj⟩, hc, fun _ => hf, fun h => absurd hd h⟩
    · next hf =>
      refine iff_of_false not_judges_of_error ?_
      rintro ⟨-, -, ha, -⟩
      exact hf (ha hd)
  · -- the body is JSON and not the proof: what remains is whether the alert is marked
    have hh : (sweepRegistry sdk cfg env enrollment db).2.head enrollment.tenantId
        enrollment.authority = some prior := by
      rw [head_of_not_witnessed, hprior]
      intro evidence checkpoint hw
      rw [hv, hg] at hw
      cases hw
    rw [hg, Verdict.outcome, hh]
    split
    · next hf =>
      refine iff_of_true ⟨iff_of_false (by simp) hd, fun _ => ⟨rfl, rfl⟩⟩ ?_
      exact ⟨⟨hfi, hj⟩, hc, fun h => absurd h hd, fun _ => hf⟩
    · next hf =>
      refine iff_of_false not_judges_of_error ?_
      rintro ⟨-, -, -, hm⟩
      exact hf (hm hd)
  · rw [hg]
    exact iff_of_false not_judges_of_error fun h => hb h.1

/-- The registry serves the prefix of size two, and answers the request for a proof with `resp`. -/
def sampleAnswer (resp : RegistryResponse) : SweepEnv :=
  sampleAnswering 2 fun url => answerOf url resp

def sampleAnswered (resp : RegistryResponse) : WitnessOutcome × Db :=
  sweepRegistry sampleSdk sampleConfig (sampleAnswer resp) (sampleInput.newRow "") sampleAnchored

theorem growth_exits_sampleAnchored :
    Judges sampleSdk (sampleHead 1).head (sampleHead 2) (.ok (sampleProof 1 2)) "r.example"
      (sampleAnswered ⟨200, none, [], .ok (sampleProof 1 2)⟩).1
      ((sampleAnswered ⟨200, none, [], .ok (sampleProof 1 2)⟩).2.head "default" "r.example") := by
  let resp : RegistryResponse := ⟨200, none, [], .ok (sampleProof 1 2)⟩
  let enrollment := sampleInput.newRow ""
  have hp : Presents sampleSdk sampleConfig
      ((sampleAnswer resp).registry enrollment.authority) enrollment "https://r.example"
      (sampleHead 2) "key" := presents_sampleAnswering _
  have hg : ((sampleAnswer resp).registry enrollment.authority).get
        (proofUrl "https://r.example" (sampleHead 1).head.size (sampleHead 2).treeSize) =
      answerOf (proofUrl "https://r.example" (sampleHead 1).head.size (sampleHead 2).treeSize)
        resp := by
    unfold sampleAnswer sampleAnswering
    dsimp only
    rw [if_neg (by decide)]
  have hpr : sampleAnchored.head enrollment.tenantId enrollment.authority =
      some (sampleHead 1).head := sampleAnchored_head
  refine (growth_exits hp sampleHead_signed hpr rfl ?_ hg ⟨?_, ?_⟩).mpr ?_
  · decide
  · decide
  · decide
  · exact ⟨⟨⟨nofun, Nat.zero_le _⟩, _, rfl⟩, rfl, fun _ => rfl, fun _ => rfl⟩

/-- A body that is not JSON: the growth is neither witnessed nor held against the registry. -/
theorem growth_escapes :
    let resp : RegistryResponse := ⟨200, none, [1], .error ⟨"Unexpected token"⟩⟩
    let pass := sampleAnswered resp
    pass.1 = ⟨"r.example", .error, some "consistency proof fetch failed: Unexpected token"⟩ ∧
      ¬Judges sampleSdk (sampleHead 1).head (sampleHead 2) resp.json "r.example" pass.1
        (pass.2.head "default" "r.example") := by
  intro resp pass
  have ho : pass.1 =
      ⟨"r.example", .error, some "consistency proof fetch failed: Unexpected token"⟩ := by
    decide +kernel
  refine ⟨ho, ?_⟩
  rw [ho]
  exact not_judges_of_error

end Passes

end AcdpControlPlane
