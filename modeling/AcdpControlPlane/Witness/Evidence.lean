import AcdpControlPlane.Witness.Chain

/-!
# The evidence of a pass

A pass that is presented a checkpoint leaves evidence of it, together with what it found: whether
the signature verified, and whether the log was found consistent with the retained head. Evidence
is filed once for each head of a tenant. What a later pass finds about the same head is dropped,
except for the quorum, which is refreshed.
-/

namespace AcdpControlPlane

open List

open Relation (ReflTransGen)

/-! ## What an exit records -/

def Verdict.evidence : Verdict → Option Evidence
  | .alert evidence _ _ => evidence
  | .witnessed evidence _ => evidence
  | _ => none

section Exits

variable {sdk : Sdk} {cfg : WitnessConfig} {env : RegistryEnv} {enrollment : RegistryEnrollment}
  {cursor : Except JsError (Option LogWitnessCursor)} {baseUrl : String}
  {checkpoint c : LogCheckpoint} {quorum : QuorumResult} {evidence : Evidence}

theorem Verdict.Bare.evidence_eq_none {verdict : Verdict} (h : verdict.Bare) :
    verdict.evidence = none := by
  cases verdict with
  | alert evidence reason detail => exact h
  | witnessed evidence checkpoint => exact h.elim
  | skipped reason => rfl
  | failure reason => rfl
  | crash err => rfl

theorem cursorVerdict_evidence {prior : Option Head}
    (hev : (cursorVerdict sdk env baseUrl prior checkpoint quorum).evidence = some evidence) :
    evidence.checkpoint = checkpoint ∧ evidence.signatureValid = true := by
  unfold cursorVerdict at hev
  split at hev
  · cases hev
    exact ⟨rfl, rfl⟩
  split at hev
  · cases hev
    exact ⟨rfl, rfl⟩
  split at hev
  · cases hev
    exact ⟨rfl, rfl⟩
  split at hev
  · split at hev
    · cases hev
      exact ⟨rfl, rfl⟩
    · -- an unchanged head may be recorded for its quorum
      obtain ⟨-, hs⟩ := Option.ite_none_right_eq_some.mp hev
      cases hs
      exact ⟨rfl, rfl⟩
  · unfold growthVerdict at hev
    dsimp only at hev
    split at hev
    · cases hev
    split at hev
    · cases hev
      exact ⟨rfl, rfl⟩
    split at hev
    · cases hev
    split at hev
    · cases hev
      exact ⟨rfl, rfl⟩
    · cases hev
      exact ⟨rfl, rfl⟩

theorem witnessVerdict_evidence
    (hev : (witnessVerdict sdk cfg env enrollment cursor).evidence = some evidence) :
    ∃ baseUrl key, Presents sdk cfg env enrollment baseUrl evidence.checkpoint key ∧
      (evidence.signatureValid = true ↔
        verifyCheckpointSignature sdk.crypto evidence.checkpoint key = .ok ()) := by
  rcases witnessVerdict_cases sdk cfg env enrollment cursor with
    hb | ⟨baseUrl, checkpoint, key, quorum, hp, heq⟩
  · rw [hb.evidence_eq_none] at hev
    cases hev
  · rw [heq] at hev
    unfold presentedVerdict at hev
    split at hev
    · next reason hs =>
      cases hev
      refine ⟨baseUrl, key, hp, iff_of_false (by simp) ?_⟩
      rw [hs]
      nofun
    · next hs =>
      split at hev
      · cases hev
      · obtain ⟨rfl, hv⟩ := cursorVerdict_evidence hev
        exact ⟨baseUrl, key, hp, iff_of_true hv hs⟩

end Exits

/-! ## What is filed

The quorum of a row is not part of what it says here: it is the one column that a later pass
writes. -/

/-- What an evidence row says about a head. -/
structure Finding where
  tenantId : String
  head : Head
  signatureValid : Bool
  consistencyOk : Option Bool
deriving DecidableEq, Repr

def Finding.IsAbout (finding : Finding) (tenantId : String) (head : Head) : Prop :=
  finding.tenantId = tenantId ∧ finding.head = head

def Finding.Attests (finding : Finding) : Prop :=
  finding.signatureValid = true ∧ finding.consistencyOk ≠ some false

def LogWitnessCheckpoint.finding (row : LogWitnessCheckpoint) : Finding :=
  ⟨row.tenantId, row.checkpoint.head, row.signatureValid, row.consistencyOk⟩

def Evidence.finding (evidence : Evidence) (tenantId : String) : Finding :=
  ⟨tenantId, evidence.checkpoint.head, evidence.signatureValid, evidence.consistencyOk⟩

def Db.findings (db : Db) : List Finding := db.checkpoints.map LogWitnessCheckpoint.finding

inductive Files (finding : Finding) (findings findings' : List Finding) : Prop where
  | known (old : Finding) (mem : old ∈ findings)
      (about : old.IsAbout finding.tenantId finding.head) (same : findings' = findings)
  | filed (fresh : ∀ old ∈ findings, ¬old.IsAbout finding.tenantId finding.head)
      (same : findings' = findings ++ [finding])

section Findings

variable {db : Db} {finding : Finding} {findings findings' : List Finding}

theorem LogWitnessCheckpoint.key_eq_iff {row row' : LogWitnessCheckpoint} :
    row.key = row'.key ↔ row.finding.IsAbout row'.finding.tenantId row'.finding.head := by
  simp [LogWitnessCheckpoint.key, LogWitnessCheckpoint.finding, Finding.IsAbout,
    LogCheckpoint.head]

theorem Files.mem_cases (h : Files finding findings findings') {f : Finding} (hf : f ∈ findings') :
    f ∈ findings ∨
      f = finding ∧ ∀ old ∈ findings, ¬old.IsAbout finding.tenantId finding.head := by
  cases h with
  | known old mem about same => exact Or.inl (same ▸ hf)
  | filed fresh same =>
    rw [same, mem_append, mem_singleton] at hf
    exact hf.imp_right fun heq => ⟨heq, fresh⟩

theorem Files.exists_about (h : Files finding findings findings') :
    ∃ f ∈ findings', f.IsAbout finding.tenantId finding.head := by
  cases h with
  | known old mem about same => exact ⟨old, same ▸ mem, about⟩
  | filed fresh same =>
    refine ⟨finding, ?_, rfl, rfl⟩
    rw [same]
    exact mem_append_right _ (mem_singleton_self _)

theorem files_recordCheckpoint (row : LogWitnessCheckpoint) (db : Db) :
    Files row.finding db.findings (recordCheckpoint row db).2.findings := by
  unfold recordCheckpoint
  split
  · next ha =>
    obtain ⟨old, ho, hk⟩ := any_eq_true.mp ha
    exact .known old.finding (mem_map_of_mem ho)
      (LogWitnessCheckpoint.key_eq_iff.mp (of_decide_eq_true hk)) rfl
  · next hn =>
    refine .filed ?_ (by simp [Db.findings])
    intro finding hf hab
    obtain ⟨old, ho, rfl⟩ := mem_map.mp hf
    refine hn (any_eq_true.mpr ⟨old, ho, decide_eq_true ?_⟩)
    exact LogWitnessCheckpoint.key_eq_iff.mpr hab

theorem findings_updateQuorum (key : String × String × ℕ × String) (quorum : QuorumResult)
    (db : Db) : (updateQuorum key quorum db).2.findings = db.findings := by
  unfold updateQuorum Db.findings
  rw [map_map]
  refine map_congr_left fun row _ => ?_
  dsimp only [Function.comp]
  split <;> rfl

theorem persistCheckpointSafe_findings (env : RegistryEnv) (tenantId authority : String)
    (evidence : Evidence) (db : Db) :
    env.faults.recordCheckpoint = .lost ∧
        (persistCheckpointSafe env tenantId authority evidence db).findings = db.findings ∨
      Files (evidence.finding tenantId) db.findings
        (persistCheckpointSafe env tenantId authority evidence db).findings := by
  have hf := files_recordCheckpoint ⟨tenantId, authority, evidence.checkpoint,
    evidence.signatureValid, evidence.consistencyOk, evidence.quorum⟩ db
  unfold persistCheckpointSafe
  cases hfl : env.faults.recordCheckpoint with
  | lost => exact Or.inl ⟨rfl, rfl⟩
  | unacknowledged => exact Or.inr hf
  | none =>
    refine Or.inr ?_
    dsimp only [Fault.run]
    split
    · next recorded hr =>
      obtain ⟨-, rfl⟩ := Prod.mk.inj hr
      split
      · -- the refresh of the quorum is not part of a finding, whether it succeeds or not
        refine Fault.run_snd (P := fun db' => Files _ db.findings db'.findings) _ hf ?_
        rw [findings_updateQuorum]
        exact hf
      · exact hf
    · next recorded hr =>
      obtain ⟨-, rfl⟩ := Prod.mk.inj hr
      exact hf

end Findings

section Passes

variable (sdk : Sdk) (cfg : WitnessConfig) (tenantId authority : String) (db : Db)

theorem checkpoints_enact (env : RegistryEnv) (verdict : Verdict) :
    (enact sdk cfg env tenantId authority verdict db).2.checkpoints =
      (persistEvidence env tenantId authority verdict.evidence db).checkpoints := by
  cases verdict with
  | skipped reason => rfl
  | failure reason =>
    exact Fault.run_snd (P := fun db' => db'.checkpoints = db.checkpoints) _ rfl rfl
  | alert evidence reason detail =>
    exact raiseAlert_keeps (P := fun db' => db'.checkpoints = _) rfl rfl fun _ _ _ _ h => h
  | crash err => rfl
  | witnessed evidence checkpoint =>
    unfold enact
    cases env.faults.advanceCursor with
    | lost => rfl
    | unacknowledged => rfl
    | none =>
      refine cosignSafe_keeps (P := fun db' => db'.checkpoints = _) rfl fun _ _ _ _ => ?_
      unfold recordCosignature
      split <;> rfl

theorem sweepRegistry_findings (env : SweepEnv) (enrollment : RegistryEnrollment) :
    (sweepRegistry sdk cfg env enrollment db).2.findings = db.findings ∧
        ((passVerdict sdk cfg env enrollment db).evidence = none ∨
          (env.registry enrollment.authority).faults.recordCheckpoint = .lost) ∨
      ∃ evidence, (passVerdict sdk cfg env enrollment db).evidence = some evidence ∧
        Files (evidence.finding enrollment.tenantId) db.findings
          (sweepRegistry sdk cfg env enrollment db).2.findings := by
  have hr := sweepRegistry_keeps (P := fun db' => db'.checkpoints = _) env enrollment
    (checkpoints_enact sdk cfg _ _ db _ _) fun _ _ h => h
  rw [show (sweepRegistry sdk cfg env enrollment db).2.findings = _ from
    congrArg (map LogWitnessCheckpoint.finding) hr]
  cases (passVerdict sdk cfg env enrollment db).evidence with
  | none => exact Or.inl ⟨rfl, Or.inl rfl⟩
  | some evidence =>
    rcases persistCheckpointSafe_findings (env.registry enrollment.authority) enrollment.tenantId
      enrollment.authority evidence db with ⟨hl, hs⟩ | hf
    · exact Or.inl ⟨hs, Or.inr hl⟩
    · exact Or.inr ⟨evidence, rfl, hf⟩

end Passes

/-! ## Runs and what they filed -/

/-- A run with its history: the actions, the latest first, each with the tables it was taken in. -/
inductive Run (sdk : Sdk) : List (Action × Db) → Db → Prop where
  | start : Run sdk [] Db.empty
  | step {history : List (Action × Db)} {db db' : Db} {action : Action} (run : Run sdk history db)
      (step : Step sdk action db db') : Run sdk ((action, db) :: history) db'

def DbFaults.WritesSucceed (faults : DbFaults) : Prop :=
  faults.recordCheckpoint = .none ∧ faults.updateQuorum = .none ∧ faults.advanceCursor = .none ∧
    faults.markAlert = .none ∧ faults.markFailure = .none ∧ faults.recordCosignature = .none

def Action.WritesSucceed : Action → Prop
  | .pass _ env enrollment => (env.registry enrollment.authority).faults.WritesSucceed ∧
      env.crashFault enrollment.authority = .none
  | .acknowledge _ _ _ _ fault => fault = .none
  | .enroll _ _ fault => fault = .none

/-- The finding was filed by a pass of the history that ended with `verdict`, as the first about its
head. -/
def FiledBy (sdk : Sdk) (history : List (Action × Db)) (finding : Finding) (verdict : Verdict) :
    Prop :=
  ∃ cfg env enrollment db, (Action.pass cfg env enrollment, db) ∈ history ∧
    passVerdict sdk cfg env enrollment db = verdict ∧
    (∃ evidence, verdict.evidence = some evidence ∧
      evidence.finding enrollment.tenantId = finding) ∧
    ∀ old ∈ db.findings, ¬old.IsAbout finding.tenantId finding.head

section Runs

variable {sdk : Sdk} {action : Action} {db db' : Db} {history : List (Action × Db)}
  {finding : Finding} {tenantId authority : String} {head : Head}

theorem step_findings (hst : Step sdk action db db') :
    db'.findings = db.findings ∨
      ∃ cfg env enrollment evidence, action = .pass cfg env enrollment ∧
        (passVerdict sdk cfg env enrollment db).evidence = some evidence ∧
        Files (evidence.finding enrollment.tenantId) db.findings db'.findings := by
  cases hst with
  | acknowledge tenantId authority acknowledgedBy now fault =>
    refine Or.inl (Fault.run_snd (P := fun db' => db'.findings = db.findings) _ rfl ?_)
    unfold acknowledgeAlert
    split
    · split <;> rfl
    · rfl
  | enroll input now fault =>
    exact Or.inl (fault.run_snd (P := fun db' => db'.findings = db.findings) rfl rfl)
  | pass cfg env enrollment enrolled =>
    rcases sweepRegistry_findings sdk cfg db env enrollment with
      ⟨hs, -⟩ | ⟨evidence, hev, hf⟩
    · exact Or.inl hs
    · exact Or.inr ⟨cfg, env, enrollment, evidence, rfl, hev, hf⟩

theorem FiledBy.cons {verdict : Verdict} {entry : Action × Db}
    (h : FiledBy sdk history finding verdict) : FiledBy sdk (entry :: history) finding verdict := by
  obtain ⟨cfg, env, enrollment, db, hm, hf⟩ := h
  exact ⟨cfg, env, enrollment, db, mem_cons_of_mem _ hm, hf⟩

theorem filedBy_of_run (hr : Run sdk history db) (hf : finding ∈ db.findings) :
    ∃ verdict, FiledBy sdk history finding verdict := by
  induction hr with
  | start => exact nomatch hf
  | step _ hst ih =>
    rcases step_findings hst with
      hs | ⟨cfg, env, enrollment, evidence, rfl, hev, hfi⟩
    · rw [hs] at hf
      obtain ⟨verdict, hfl⟩ := ih hf
      exact ⟨verdict, hfl.cons⟩
    · rcases hfi.mem_cases hf with ho | ⟨rfl, hfr⟩
      · obtain ⟨verdict, hfl⟩ := ih ho
        exact ⟨verdict, hfl.cons⟩
      · exact ⟨_, cfg, env, enrollment, _, mem_cons_self, rfl, ⟨evidence, hev, rfl⟩,
          hfr⟩

/-! ## The evidence of a retained head -/

def Documented (db : Db) : Prop :=
  ∀ tenantId authority head, db.head tenantId authority = some head →
    ∃ finding ∈ db.findings, finding.IsAbout tenantId head

def Distinct (findings : List Finding) : Prop :=
  (findings.map fun finding => (finding.tenantId, finding.head)).Nodup

variable {findings findings' : List Finding}

theorem distinct_of_run (hr : Run sdk history db) : Distinct db.findings := by
  induction hr with
  | start => exact nodup_nil
  | step _ hst ih =>
    rcases step_findings hst with hsa | ⟨_, _, _, _, _, _, hf⟩
    · rw [hsa]
      exact ih
    · cases hf with
      | known old mem about same => exact same ▸ ih
      | filed fresh same =>
        rw [same, Distinct, map_append, nodup_append]
        refine ⟨ih, nodup_singleton _, ?_⟩
        intro subject hs subject' hs'
        obtain ⟨old, ho, rfl⟩ := mem_map.mp hs
        obtain rfl := mem_singleton.mp hs'
        intro heq
        exact fresh old ho (Prod.mk.inj heq)

theorem Documented.step (hd : Documented db) (hst : Step sdk action db db')
    (hw : action.WritesSucceed) : Documented db' := by
  have hsu : db.findings ⊆ db'.findings := by
    rcases step_findings hst with hs | ⟨_, _, _, _, _, _, hfi⟩
    · rw [hs]
      exact Subset.refl _
    · cases hfi with
      | known old mem about same => exact same ▸ Subset.refl _
      | filed fresh same => exact same ▸ subset_append_left _ _
  have hk : ∀ {t a head}, db.head t a = some head →
      ∃ finding ∈ db'.findings, finding.IsAbout t head := by
    intro t a head hh
    obtain ⟨finding, hf, ha⟩ := hd t a head hh
    exact ⟨finding, hsu hf, ha⟩
  intro t a head hh
  cases hst with
  | acknowledge tenantId authority acknowledgedBy now fault =>
    rw [(sameHeads_run db fault
      (sameHeads_acknowledgeAlert db tenantId authority now acknowledgedBy)).head] at hh
    exact hk hh
  | enroll input now fault =>
    have hhe : (fault.run db (enrollRegistry input now)).2.head t a = db.head t a :=
      fault.run_snd (P := fun db' => db'.head t a = db.head t a) rfl rfl
    rw [hhe] at hh
    exact hk hh
  | pass cfg env enrollment enrolled =>
    rcases sweepRegistry_cases sdk cfg env enrollment db with
      hs | ⟨evidence, checkpoint, hv, hr⟩
    · rw [hs.head] at hh
      exact hk hh
    · by_cases hke : t = enrollment.tenantId ∧ a = enrollment.authority
      · obtain ⟨rfl, rfl⟩ := hke
        rw [hr.head_here] at hh
        cases hh
        obtain ⟨row, baseUrl, presented, key, quorum, hro, -, -, hc⟩ :=
          witnessVerdict_witnessed_cases hv
        obtain ⟨rfl, -, ⟨-, hk⟩ | ⟨consistencyOk, -, rfl⟩⟩ := cursorVerdict_witnessed hc
        · -- an unchanged head need not be recorded again
          rw [readCursor_eq_ok hro] at hk
          obtain ⟨finding, hf, ha⟩ := hd _ _ _ hk
          exact ⟨finding, hsu hf, ha⟩
        · rcases sweepRegistry_findings sdk cfg db env enrollment with
            ⟨-, hn | hl⟩ | ⟨evidence, hev, hfi⟩
          · rw [hv] at hn
            cases hn
          · rw [hw.1.1] at hl
            cases hl
          · rw [hv] at hev
            cases hev
            exact hfi.exists_about
      · rw [hr.head_elsewhere hke] at hh
        exact hk hh

theorem documented_of_run (hr : Run sdk history db)
    (hw : ∀ entry ∈ history, entry.1.WritesSucceed) : Documented db := by
  induction hr with
  | start => exact fun _ _ _ hh => nomatch hh
  | step _ hs ih =>
    have hb := ih fun entry hen => hw entry (mem_cons_of_mem _ hen)
    exact hb.step hs (hw _ mem_cons_self)

theorem FiledBy.attests_or_alert {verdict : Verdict} (h : FiledBy sdk history finding verdict) :
    finding.Attests ∨ ∃ evidence reason detail, verdict = .alert evidence reason detail := by
  obtain ⟨cfg, env, enrollment, db, -, hv, ⟨evidence, hev, rfl⟩, -⟩ := h
  cases verdict with
  | alert recorded reason detail => exact Or.inr ⟨recorded, reason, detail, rfl⟩
  | skipped reason => cases hev
  | failure reason => cases hev
  | crash err => cases hev
  | witnessed recorded checkpoint =>
    cases hev
    obtain ⟨row, baseUrl, presented, key, quorum, -, -, -, hc⟩ :=
      witnessVerdict_witnessed_cases hv
    obtain ⟨-, -, ⟨hn, -⟩ | ⟨consistencyOk, ho, hs⟩⟩ := cursorVerdict_witnessed hc
    · cases hn
    · cases hs
      exact Or.inl ⟨rfl, ho⟩

/-- **The evidence of a retained head.** When the writes of a run succeed, every head that a cursor
retains has one evidence row in its tenant. The row says that the signature verified and does not
say that the log was inconsistent, unless the first pass that recorded the head raised an alert:
what that pass found is never rewritten. -/
theorem retained_evidence (sdk : Sdk) {history : List (Action × Db)} {db : Db}
    (hrun : Run sdk history db) (hwrites : ∀ entry ∈ history, entry.1.WritesSucceed)
    (tenantId authority : String) {head : Head} (hhead : db.head tenantId authority = some head) :
    ∃ row ∈ db.checkpoints, row.finding.IsAbout tenantId head ∧
      (∀ row' ∈ db.checkpoints, row'.finding.IsAbout tenantId head → row' = row) ∧
      (row.signatureValid = true ∧ row.consistencyOk ≠ some false ∨
        ∃ evidence reason detail,
          FiledBy sdk history row.finding (.alert evidence reason detail)) := by
  obtain ⟨finding, hf, ha⟩ := documented_of_run hrun hwrites _ _ _ hhead
  obtain ⟨row, hr, rfl⟩ := mem_map.mp hf
  refine ⟨row, hr, ha, ?_, ?_⟩
  · intro row' hr' ha'
    have hd := distinct_of_run hrun
    rw [Distinct, Db.findings, map_map] at hd
    refine inj_on_of_nodup_map hd hr' hr (Prod.ext ?_ ?_)
    · exact ha'.1.trans ha.1.symm
    · exact ha'.2.trans ha.2.symm
  · obtain ⟨verdict, hfl⟩ := filedBy_of_run hrun hf
    rcases hfl.attests_or_alert with hat | ⟨evidence, reason, detail, rfl⟩
    · exact Or.inl hat
    · exact Or.inr ⟨evidence, reason, detail, hfl⟩

theorem run_sampleAnchored : Run sampleSdk
    [(.pass sampleConfig (sampleSweep 1) (sampleInput.newRow ""), sampleEnrolled),
      (.enroll sampleInput "" .none, Db.empty)] sampleAnchored :=
  .step (.step .start (.enroll sampleInput "" .none)) (step_samplePass 1 rfl)

theorem writesSucceed_samplePass (n : ℕ) :
    (Action.pass sampleConfig (sampleSweep n) (sampleInput.newRow "")).WritesSucceed :=
  ⟨⟨rfl, rfl, rfl, rfl, rfl, rfl⟩, rfl⟩

theorem retained_evidence_sampleAnchored :
    sampleAnchored.head "default" "r.example" = some (sampleHead 1).head ∧
      ∃ row ∈ sampleAnchored.checkpoints, row.finding.IsAbout "default" (sampleHead 1).head := by
  have hw : ∀ entry ∈ [(Action.pass sampleConfig (sampleSweep 1) (sampleInput.newRow ""),
      sampleEnrolled), (.enroll sampleInput "" .none, Db.empty)], entry.1.WritesSucceed := by
    intro entry hen
    rcases mem_pair.mp hen with rfl | rfl
    · exact writesSucceed_samplePass 1
    · exact rfl
  obtain ⟨row, hr, ha, -⟩ :=
    retained_evidence sampleSdk run_sampleAnchored hw "default" "r.example"
      sampleAnchored_head
  exact ⟨sampleAnchored_head, row, hr, ha⟩

def sampleRefusal : SweepEnv := sampleAnswering 2 fun _ => .ok ⟨404, .ok .null⟩

def sampleRefused : Db :=
  (sweepRegistry sampleSdk sampleConfig sampleRefusal (sampleInput.newRow "") sampleAnchored).2

/-- A head that is retained although the evidence about it is that of a refusal. -/
theorem retained_evidence_negative : ∃ history db, Run sampleSdk history db ∧
    (∀ entry ∈ history, entry.1.WritesSucceed) ∧
    db.head "default" "r.example" = some (sampleHead 2).head ∧
    db.findings = [⟨"default", (sampleHead 1).head, true, none⟩,
      ⟨"default", (sampleHead 2).head, true, some false⟩] := by
  have ha : sampleAnchored.enrollments = sampleEnrolled.enrollments :=
    samplePass_enrollments 1 _
  have hre : sampleRefused.enrollments = sampleEnrolled.enrollments :=
    (sweepRegistry_effect sampleSdk sampleConfig sampleRefusal _ _).enrollments.trans ha
  have hr : Step sampleSdk (.pass sampleConfig sampleRefusal (sampleInput.newRow ""))
      sampleAnchored sampleRefused := by
    refine .pass _ _ _ ?_
    rw [ha]
    exact ⟨_, mem_cons_self, rfl, rfl⟩
  refine ⟨_, samplePass 2 sampleRefused,
    .step (.step run_sampleAnchored hr) (step_samplePass 2 hre), ?_, ?_, ?_⟩
  · intro entry hen
    rcases mem_cons.mp hen with rfl | hen
    · exact writesSucceed_samplePass 2
    rcases mem_cons.mp hen with rfl | hen
    · exact writesSucceed_samplePass 2
    rcases mem_pair.mp hen with rfl | rfl
    · exact writesSucceed_samplePass 1
    · exact rfl
  · decide +kernel
  · decide +kernel

end Runs

end AcdpControlPlane
