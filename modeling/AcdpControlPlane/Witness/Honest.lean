import AcdpControlPlane.Log.Documents
import AcdpControlPlane.Witness.Chain

/-!
# An honest log is not accused

A registry that only ever appends to its log serves checkpoints of its prefixes and the RFC 6962
proofs between them; requests may fail, keys may not resolve, statements may be lost. Such a
registry must never be reported. The one thing that can go wrong is a retained head of size zero:
`verifyConsistencyPath` refuses every proof from size zero, and `verifyGrowth` asks for one, so a
log that was anchored empty is reported as soon as it grows. In every run without that step nothing
is reported.
-/

namespace AcdpControlPlane

open Merkle (mth consistencyProof)

/-! ## What an honest registry serves -/

structure HonestLog where
  authority : String
  did : String
  canonical : authorityToDidWeb authority = some did
  logId : String
  bound : logIdRegistryDid logId = some did
  leaves : List Digest
  small : leaves.length < 2 ^ 31

namespace HonestLog

variable (log : HonestLog) (h : Merkle.Hasher Digest)

def head (n : ℕ) : Head := ⟨log.logId, n, (mth h (log.leaves.take n)).toWire⟩

def proof (m n : ℕ) : ConsistencyProof :=
  ⟨log.logId, m, n, (consistencyProof h m (log.leaves.take n)).map Digest.toWire⟩

end HonestLog

/-- A body of `/log/checkpoint`: the checkpoint, or an envelope of it and its cosignatures. -/
def CheckpointBody (body : Json) (checkpoint : LogCheckpoint) : Prop :=
  ∃ o, CheckpointDocument o checkpoint ∧ (body = .obj o ∨ ∃ e signatures, body = .obj e ∧
    Json.get e "log_checkpoint" = some (.obj o) ∧
    Json.get e "witness_signatures" = some signatures)

/-- A checkpoint of the prefix of size `n`, bound to the registry, not from the future, and with a
signature that verifies under the key its id resolves to, if it resolves. -/
structure HonestCheckpoint (sdk : Sdk) (log : HonestLog) (env : RegistryEnv) (n : ℕ)
    (checkpoint : LogCheckpoint) : Prop where
  head : checkpoint.head = log.head sdk.hasher n
  keyId : sdk.stripFragment checkpoint.signature.keyId = log.did
  timestamp : isTimestamp sdk.dateParse checkpoint.timestamp = true
  past : ∀ ts, sdk.dateParse checkpoint.timestamp = some ts → ts ≤ env.nowMs
  signed : ∀ key, env.resolveReceiptKey checkpoint.signature.keyId = .ok key →
    verifyCheckpointSignature sdk.crypto checkpoint key = .ok ()

/-- While the log has size `n`, the registry answers with its checkpoint and with the proofs to it.
Any request may fail, a checkpoint may also be refused, and any body may be cut short. -/
structure HonestlyServes (sdk : Sdk) (log : HonestLog) (enrollment : RegistryEnrollment) (n : ℕ)
    (env : RegistryEnv) : Prop where
  checkpoint : ∀ baseUrl resp body, resolveBaseUrl env enrollment = .ok (some baseUrl) →
    env.get (baseUrl ++ "/log/checkpoint") = .ok resp → resp.isSuccess = true →
    resp.json = .ok body →
    ∃ checkpoint, CheckpointBody body checkpoint ∧ HonestCheckpoint sdk log env n checkpoint
  proof : ∀ baseUrl resp m, resolveBaseUrl env enrollment = .ok (some baseUrl) → m ≤ n →
    env.get (baseUrl ++ "/log/proof?first=" ++ toString m ++ "&second=" ++ toString n) =
      .ok resp →
    resp.isSuccess = true ∧ ∀ raw, resp.json = .ok raw →
      ∃ o, raw = .obj o ∧ ProofDocument o (log.proof sdk.hasher m n)

/-- The retained head is not an empty tree that is now to be grown. -/
def NotFromEmpty (retained : Option Head) (n : ℕ) : Prop :=
  ∀ head, retained = some head → head.size = 0 → n = 0

/-! ## The exits of an honest pass -/

/-- An exit that reports nothing, and retains nothing but `head`. -/
def Verdict.Harmless (head : Head) : Verdict → Prop
  | .alert _ _ _ => False
  | .witnessed _ checkpoint => checkpoint.head = head
  | .skipped _ => True
  | .failure _ => True
  | .crash _ => True

section Exits

variable {sdk : Sdk} {log : HonestLog} {cfg : WitnessConfig} {env : RegistryEnv}
  {enrollment : RegistryEnrollment} {n : ℕ} {checkpoint : LogCheckpoint} {baseUrl : String}
  {quorum : QuorumResult}

theorem lookup_eq_none_of_notMem {o : List (String × Json)} {k : String}
    (hk : k ∉ Json.keys o) : Json.get o k = none := by
  refine List.lookup_eq_none_iff.mpr fun member hm => ?_
  simp only [ne_eq, bne_iff_ne]
  rintro rfl
  exact hk (List.mem_map_of_mem hm)

theorem unwrapCheckpointEnvelope_body {body : Json} (h : CheckpointBody body checkpoint) :
    ∃ o, CheckpointDocument o checkpoint ∧ (unwrapCheckpointEnvelope body).1 = .obj o := by
  obtain ⟨o, hd, rfl | ⟨e, signatures, rfl, hc, hs⟩⟩ := h
  · refine ⟨o, hd, ?_⟩
    -- a bare checkpoint is a closed object, so it has no member `log_checkpoint`
    have hb : Json.get o "log_checkpoint" = none :=
      lookup_eq_none_of_notMem fun hm => absurd (hd.keys.mem_iff.mp hm) (by decide)
    rw [unwrapCheckpointEnvelope, hb]
  · refine ⟨o, hd, ?_⟩
    rw [unwrapCheckpointEnvelope]
    rw [hc, hs]
    cases signatures <;> rfl

theorem HonestCheckpoint.parses (hc : HonestCheckpoint sdk log env n checkpoint)
    {o : List (String × Json)} (hd : CheckpointDocument o checkpoint) :
    parseCheckpoint sdk.dateParse (.obj o) = .ok (.ok checkpoint) := by
  have hh := hc.head
  have hl : checkpoint.logId = log.logId := congrArg Head.logId hh
  have hr : checkpoint.rootHash = (mth sdk.hasher (log.leaves.take n)).toWire :=
    congrArg Head.root hh
  refine parseCheckpoint_document hd ?_ ?_ hc.timestamp
  · rw [hl]
    rw [AcdpControlPlane.isLogId, log.bound]
    rfl
  · rw [hr]
    exact isWireHash_toWire _

theorem HonestCheckpoint.timely (hc : HonestCheckpoint sdk log env n checkpoint) :
    checkpointTimestampOk sdk.dateParse checkpoint env.nowMs = .ok () := by
  unfold checkpointTimestampOk
  split
  · next ts ht =>
    refine if_neg ?_
    have hp := hc.past ts ht
    have hs : (0 : Int) ≤ CHECKPOINT_MAX_FUTURE_SKEW_MS := by decide
    omega
  · rfl

theorem HonestCheckpoint.binding (hc : HonestCheckpoint sdk log env n checkpoint) :
    checkRegistryBinding sdk checkpoint log.did = none := by
  have hl : checkpoint.logId = log.logId := congrArg Head.logId hc.head
  unfold checkRegistryBinding
  rw [hl, log.bound, if_neg (not_not.mpr rfl), if_neg (not_not.mpr hc.keyId)]

theorem HonestLog.isWireHash_of_mem_proof (log : HonestLog) {h : Merkle.Hasher Digest} {m : ℕ} :
    ∀ p ∈ (log.proof h m n).consistencyPath, isWireHash p = true := by
  intro p hp
  obtain ⟨d, -, rfl⟩ := List.mem_map.mp hp
  exact isWireHash_toWire d

theorem growthVerdict_harmless (hf : sdk.logSurface = none) {k : ℕ} (hpo : 0 < k) (hlt : k < n)
    (hn : n ≤ log.leaves.length) (hsv : HonestlyServes sdk log enrollment n env)
    (hb : resolveBaseUrl env enrollment = .ok (some baseUrl))
    (hh : checkpoint.head = log.head sdk.hasher n) :
    (growthVerdict sdk env baseUrl (log.head sdk.hasher k) checkpoint quorum).Harmless
      (log.head sdk.hasher n) := by
  have hs : checkpoint.treeSize = n := congrArg Head.size hh
  have hli : checkpoint.logId = log.logId := congrArg Head.logId hh
  have hro : checkpoint.rootHash = (log.head sdk.hasher n).root := congrArg Head.root hh
  unfold growthVerdict
  dsimp only
  rw [hs]
  split
  · trivial
  next resp hr =>
  obtain ⟨hsu, hpr⟩ := hsv.proof baseUrl resp k hb hlt.le hr
  rw [if_neg (by simp [hsu])]
  split
  · trivial
  next raw hra =>
  obtain ⟨o, rfl, hd⟩ := hpr raw hra
  have hsh : proofShapeError (log.head sdk.hasher k) checkpoint (log.proof sdk.hasher k n) =
      none :=
    proofShapeError_eq_none_iff.mpr ⟨hli.symm, rfl, hs.symm⟩
  have ho : foldVerdict sdk (log.head sdk.hasher k) checkpoint
      (parseConsistencyProof (.obj o)) = .ok () := by
    rw [parseConsistencyProof_document hd log.isWireHash_of_mem_proof]
    unfold foldVerdict
    dsimp only
    rw [hsh]
    rw [hf, verifyConsistency, hro]
    have hsm := log.small
    have hl : (log.leaves.take n).length = n := List.length_take_of_le hn
    have ht : (log.leaves.take n).take k = log.leaves.take k := by
      rw [List.take_take, min_eq_left hlt.le]
    -- below `2 ^ 31` the 32-bit test for a power of two is exact
    have hp : isPowerOfTwo k = true → k.isPowerOfTwo := by
      intro hte
      have hm : k % 2 ^ 32 = k := Nat.mod_eq_of_lt (by omega)
      rcases (isPowerOfTwo_iff hpo (by omega)).mp hte with hz | hp
      · omega
      · rwa [hm] at hp
    have hf := (verifyConsistencyPath_consistencyProof sdk.hasher hpo (by rw [hl]; exact hlt)
      (by rw [hl]; omega)).mpr hp
    rwa [hl, ht] at hf
  rw [ho]
  exact hh

theorem cursorVerdict_harmless (hf : sdk.logSurface = none) (hn : n ≤ log.leaves.length)
    (hsv : HonestlyServes sdk log enrollment n env)
    (hb : resolveBaseUrl env enrollment = .ok (some baseUrl))
    (hh : checkpoint.head = log.head sdk.hasher n) {retained : Option Head}
    (hre : ∀ head, retained = some head → ∃ k ≤ n, head = log.head sdk.hasher k)
    (hg : NotFromEmpty retained n) :
    (cursorVerdict sdk env baseUrl retained checkpoint quorum).Harmless
      (log.head sdk.hasher n) := by
  cases retained with
  | none => exact hh
  | some prior =>
    obtain ⟨k, hk, rfl⟩ := hre prior rfl
    have hsi : checkpoint.treeSize = n := congrArg Head.size hh
    have hl : checkpoint.logId = (log.head sdk.hasher k).logId := congrArg Head.logId hh
    have hr : checkpoint.rootHash = (log.head sdk.hasher n).root := congrArg Head.root hh
    have hpr : (log.head sdk.hasher k).size = k := rfl
    unfold cursorVerdict
    dsimp only
    rw [if_neg (not_not.mpr hl), hsi, hpr, if_neg hk.not_gt]
    by_cases hs : n = k
    · subst hs
      rw [if_pos rfl, if_neg (not_not.mpr hr)]
      exact hh
    · rw [if_neg hs]
      -- a larger log is not grown from the empty one
      have hp : 0 < k := by
        refine Nat.pos_of_ne_zero fun hz => hs ?_
        rw [hg _ rfl hz, hz]
      exact growthVerdict_harmless hf hp (lt_of_le_of_ne hk (Ne.symm hs)) hn hsv hb
        hh

theorem witnessVerdict_harmless (hf : sdk.logSurface = none) (hn : n ≤ log.leaves.length)
    (ha : enrollment.authority = log.authority) (hsv : HonestlyServes sdk log enrollment n env)
    {cursor : Except JsError (Option LogWitnessCursor)}
    (hre : ∀ row, cursor = .ok row → ∀ head, row.bind LogWitnessCursor.head = some head →
      ∃ k ≤ n, head = log.head sdk.hasher k)
    (hg : ∀ row, cursor = .ok row → NotFromEmpty (row.bind LogWitnessCursor.head) n) :
    (witnessVerdict sdk cfg env enrollment cursor).Harmless (log.head sdk.hasher n) := by
  unfold witnessVerdict
  split
  · trivial
  split
  · trivial
  · trivial
  · trivial
  split
  · trivial
  · trivial
  next baseUrl hb =>
  split
  · trivial
  split
  · trivial
  next resp hr =>
  split
  · trivial
  next hsu =>
  split
  · trivial
  next body hbo =>
  obtain ⟨checkpoint, hs, hc⟩ := hsv.checkpoint baseUrl resp body hb hr
    (by simpa using hsu) hbo
  obtain ⟨o, hd, hu⟩ := unwrapCheckpointEnvelope_body hs
  dsimp only
  rw [hu, hc.parses hd]
  unfold checkpointVerdict
  rw [ha, log.canonical]
  dsimp only
  rw [hc.binding]
  rw [hc.timely]
  dsimp only
  split
  · trivial
  next key hk =>
  rw [hc.signed key hk]
  dsimp only
  split
  · trivial
  next row =>
  exact cursorVerdict_harmless hf hn hsv hb hc.head (hre row rfl)
    (hg row rfl)

end Exits

/-! ## The cursor row -/

/-- The row is not alerted, and its head is a prefix of size at most `n`. -/
def CleanRow (log : HonestLog) (h : Merkle.Hasher Digest) (n : ℕ)
    (row : Option LogWitnessCursor) : Prop :=
  ∀ cursor, row = some cursor → cursor.alerted = false ∧
    ∀ head, cursor.head = some head → ∃ k ≤ n, head = log.head h k

section Rows

variable {sdk : Sdk} {log : HonestLog} {cfg : WitnessConfig} {env : RegistryEnv} {m n : ℕ}
  {h : Merkle.Hasher Digest} {db : Db} {tenantId authority : String}

theorem CleanRow.mono {row : Option LogWitnessCursor} (hr : CleanRow log h m row) (hm : m ≤ n) :
    CleanRow log h n row := by
  intro cursor hc
  obtain ⟨ha, hh⟩ := hr cursor hc
  refine ⟨ha, fun head hs => ?_⟩
  obtain ⟨k, hk, heq⟩ := hh head hs
  exact ⟨k, hk.trans hm, heq⟩

theorem CleanRow.getD {row : Option LogWitnessCursor} (hr : CleanRow log h n row)
    (now : String) : CleanRow log h n (some (row.getD (.fresh now))) := by
  cases row with
  | none =>
    intro cursor hc
    cases hc
    exact ⟨rfl, fun _ hh => nomatch hh⟩
  | some cursor => exact hr

theorem cleanRow_markFailure (now : String) (hr : CleanRow log h n (db.cursors tenantId authority)) :
    CleanRow log h n ((markFailure tenantId authority now db).2.cursors tenantId authority) := by
  unfold markFailure
  rw [Db.setCursor_cursors_self]
  intro cursor hc
  obtain ⟨ha, hh⟩ := hr.getD now _ rfl
  cases hc
  exact ⟨ha, hh⟩

theorem cleanRow_advanceCursor (now : String) :
    CleanRow log h n
      ((advanceCursor tenantId authority (log.head h n) now db).2.cursors tenantId authority) := by
  unfold advanceCursor
  rw [Db.setCursor_cursors_self]
  intro cursor hc
  cases hc
  refine ⟨rfl, fun head hh => ⟨n, le_rfl, ?_⟩⟩
  exact (Option.some.inj hh).symm

theorem enact_clean {verdict : Verdict} (hv : verdict.Harmless (log.head h n))
    (hr : CleanRow log h n (db.cursors tenantId authority)) :
    CleanRow log h n ((enact sdk cfg env tenantId authority verdict db).2.cursors tenantId
      authority) := by
  cases verdict with
  | skipped reason => exact hr
  | failure reason =>
    exact env.faults.markFailure.run_snd (P := fun db' => CleanRow log h n (db'.cursors tenantId authority))
      hr (cleanRow_markFailure env.now hr)
  | alert evidence reason detail => exact hv.elim
  | crash err => exact hr
  | witnessed evidence checkpoint =>
    have hh : checkpoint.head = log.head h n := hv
    unfold enact
    dsimp only
    rw [hh]
    cases env.faults.advanceCursor with
    | lost =>
      exact persistEvidence_keeps (P := fun db' => CleanRow log h n (db'.cursors tenantId authority))
        evidence hr (fun row db' h => (recordCheckpoint_cursors row db').symm ▸ h) fun _ _ _ h => h
    | unacknowledged => exact cleanRow_advanceCursor env.now
    | none =>
      refine cosignSafe_keeps (P := fun db' => CleanRow log h n (db'.cursors tenantId authority))
        (cleanRow_advanceCursor env.now) fun _ _ _ _ => ?_
      rw [recordCosignature_cursors]
      exact cleanRow_advanceCursor env.now

end Rows

/-! ## Runs -/

/-- A run of passes over the registry of the log, which grows from the empty log on. The outcomes
are listed from the last pass back, `n` is the size last served, and `guard` relates the retained
head before a pass to the size served in it. -/
inductive HonestRun (sdk : Sdk) (log : HonestLog) (tenantId : String)
    (guard : Option Head → ℕ → Prop) (start : Db) : List WitnessOutcome → ℕ → Db → Prop where
  | start : HonestRun sdk log tenantId guard start [] 0 start
  | pass {outcomes : List WitnessOutcome} {m n : ℕ} {db : Db} (cfg : WitnessConfig)
      (env : SweepEnv) (enrollment : RegistryEnrollment)
      (run : HonestRun sdk log tenantId guard start outcomes m db)
      (tenant : enrollment.tenantId = tenantId) (authority : enrollment.authority = log.authority)
      (grows : m ≤ n) (within : n ≤ log.leaves.length)
      (serves : HonestlyServes sdk log enrollment n (env.registry enrollment.authority))
      (guarded : guard (db.head tenantId log.authority) n) :
      HonestRun sdk log tenantId guard start
        ((sweepRegistry sdk cfg env enrollment db).1 :: outcomes) n
        (sweepRegistry sdk cfg env enrollment db).2

section Runs

variable {sdk : Sdk} {log : HonestLog} {tenantId : String} {start db : Db}
  {outcomes : List WitnessOutcome} {m n : ℕ}

theorem sweepRegistry_clean (hf : sdk.logSurface = none) (cfg : WitnessConfig) (env : SweepEnv)
    (enrollment : RegistryEnrollment) (ha : enrollment.authority = log.authority)
    (hm : m ≤ n) (hn : n ≤ log.leaves.length)
    (hs : HonestlyServes sdk log enrollment n (env.registry enrollment.authority))
    (hg : NotFromEmpty (db.head enrollment.tenantId enrollment.authority) n)
    (hr : CleanRow log sdk.hasher m (db.cursors enrollment.tenantId enrollment.authority)) :
    CleanRow log sdk.hasher n ((sweepRegistry sdk cfg env enrollment db).2.cursors
        enrollment.tenantId enrollment.authority) ∧
      (sweepRegistry sdk cfg env enrollment db).1.status ≠ .alert := by
  have hr := hr.mono hm
  have hha : (passVerdict sdk cfg env enrollment db).Harmless (log.head sdk.hasher n) := by
    refine witnessVerdict_harmless hf hn ha hs ?_ ?_
    · intro row hc head hh
      rw [readCursor_eq_ok hc] at hh
      obtain ⟨cursor, hc, hh⟩ := Option.bind_eq_some_iff.mp hh
      exact (hr cursor hc).2 head hh
    · intro row hc
      rw [readCursor_eq_ok hc]
      exact hg
  refine ⟨sweepRegistry_keeps (P := fun db' => CleanRow log sdk.hasher n (db'.cursors
    enrollment.tenantId enrollment.authority)) env enrollment (enact_clean hha hr)
      fun now _ => cleanRow_markFailure now, ?_⟩
  rw [sweepRegistry_outcome]
  cases hv : passVerdict sdk cfg env enrollment db with
  | alert evidence reason detail =>
    rw [hv] at hha
    exact hha.elim
  | witnessed evidence checkpoint =>
    unfold Verdict.outcome
    dsimp only
    split <;> nofun
  | _ => nofun

theorem HonestRun.clean (hf : sdk.logSurface = none)
    (hs : start.cursors tenantId log.authority = none)
    (hru : HonestRun sdk log tenantId NotFromEmpty start outcomes n db) :
    CleanRow log sdk.hasher n (db.cursors tenantId log.authority) ∧
      ∀ outcome ∈ outcomes, outcome.status ≠ .alert := by
  induction hru with
  | start =>
    refine ⟨fun cursor hc => ?_, fun _ ho => nomatch ho⟩
    rw [hs] at hc
    cases hc
  | pass cfg env enrollment _ tenant authority grows within serves guarded ih =>
    subst tenant
    rw [← authority] at ih guarded ⊢
    obtain ⟨hr, hou⟩ := ih
    obtain ⟨hcl, hst⟩ := sweepRegistry_clean hf cfg env enrollment authority grows within
      serves guarded hr
    refine ⟨hcl, fun outcome ho => ?_⟩
    rcases List.mem_cons.mp ho with rfl | ho
    · exact hst
    · exact hou outcome ho

end Runs

/-! ## A log of three leaves -/

/-- The log of the registry `r.example`. -/
def sampleLog : HonestLog where
  authority := "r.example"
  did := "did:web:r.example"
  canonical := by decide
  logId := "did:web:r.example/log/1"
  bound := by decide
  leaves := threeLeaves
  small := by decide

theorem checkpointDocument_sample (n : ℕ) :
    ∃ o, (sampleHead n).toJson = .obj o ∧ CheckpointDocument o (sampleHead n) :=
  ⟨_, rfl, .refl _, rfl, rfl, ⟨_, rfl, rfl⟩, rfl, rfl, _, rfl, .refl _, rfl, rfl, rfl⟩

theorem proofDocument_sample (m n : ℕ) :
    ∃ o, sampleProof m n = .obj o ∧ ProofDocument o (sampleLog.proof threeLeafHasher m n) := by
  refine ⟨_, rfl, rfl, ⟨_, rfl, rfl⟩, ⟨_, rfl, rfl⟩, ?_, rfl⟩
  simp [Json.get, List.lookup, HonestLog.proof, sampleLog, Function.comp_def]

theorem honestCheckpoint_sample (n : ℕ) :
    HonestCheckpoint sampleSdk sampleLog (sampleEnv n) n (sampleHead n) where
  head := rfl
  keyId := by
    have hs : stripFragment "did:web:r.example#k" = "did:web:r.example" := by decide
    exact hs
  timestamp := by
    have hc : isCanonicalTimestamp "2024-01-01T00:00:00.000Z" = true := by decide
    exact Bool.and_eq_true_iff.mpr ⟨hc, rfl⟩
  past ts ht := (Option.some.inj ht).symm.le
  signed key hk := by
    cases hk
    rfl

theorem sampleEnv_get_checkpoint {n : ℕ} (hn : n ≤ 3) :
    (sampleEnv n).get ("https://r.example" ++ "/log/checkpoint") =
      .ok ⟨200, .ok (sampleHead n).toJson⟩ := by
  have hno : ∀ n < 4, ((List.range (n + 1)).find? fun m =>
      "https://r.example" ++ "/log/checkpoint" = sampleProofUrl m n) = none := by decide
  unfold sampleEnv
  dsimp only
  rw [hno n (Nat.lt_succ_of_le hn)]

theorem sampleEnv_get_proof {m n : ℕ} (hn : n ≤ 3) (hm : m ≤ n) :
    (sampleEnv n).get (sampleProofUrl m n) = .ok ⟨200, .ok (sampleProof m n)⟩ := by
  have hf : ∀ n < 4, ∀ m < n + 1, ((List.range (n + 1)).find? fun k =>
      sampleProofUrl m n = sampleProofUrl k n) = some m := by decide
  unfold sampleEnv
  dsimp only
  rw [hf n (Nat.lt_succ_of_le hn) m (Nat.lt_succ_of_le hm)]

theorem honestlyServes_sample {n : ℕ} (hn : n ≤ 3) :
    HonestlyServes sampleSdk sampleLog (sampleInput.newRow "") n (sampleEnv n) where
  checkpoint := by
    intro baseUrl resp body hb hg _ hbo
    obtain rfl : "https://r.example" = baseUrl :=
      Option.some.inj (Except.ok.inj ((resolveBaseUrl_sample _).symm.trans hb))
    obtain rfl := Except.ok.inj ((sampleEnv_get_checkpoint hn).symm.trans hg)
    obtain rfl := Except.ok.inj hbo
    obtain ⟨o, ho, hd⟩ := checkpointDocument_sample n
    exact ⟨sampleHead n, ⟨o, hd, Or.inl ho⟩, honestCheckpoint_sample n⟩
  proof := by
    intro baseUrl resp m hb hm hg
    obtain rfl : "https://r.example" = baseUrl :=
      Option.some.inj (Except.ok.inj ((resolveBaseUrl_sample _).symm.trans hb))
    obtain rfl := Except.ok.inj ((sampleEnv_get_proof hn hm).symm.trans hg)
    refine ⟨rfl, fun raw hr => ?_⟩
    obtain rfl := Except.ok.inj hr
    exact proofDocument_sample m n

/-- The outcome of a pass over the registry that serves the prefix of size `n`. -/
def sampleOutcome (n : ℕ) (db : Db) : WitnessOutcome :=
  (sweepRegistry sampleSdk sampleConfig (sampleSweep n) (sampleInput.newRow "") db).1

theorem honestRun_samplePass {guard : Option Head → ℕ → Prop} {outcomes : List WitnessOutcome} {m n : ℕ}
    {db : Db} (hr : HonestRun sampleSdk sampleLog "default" guard sampleEnrolled outcomes m db)
    (hm : m ≤ n) (hn : n ≤ 3) (hg : guard (db.head "default" "r.example") n) :
    HonestRun sampleSdk sampleLog "default" guard sampleEnrolled
      (sampleOutcome n db :: outcomes) n (samplePass n db) :=
  .pass sampleConfig (sampleSweep n) (sampleInput.newRow "") hr rfl rfl hm hn
    (honestlyServes_sample hn) hg

/-! ## The verdict on an honest log -/

section Accusation

variable {sdk : Sdk} {log : HonestLog} {tenantId : String} {start db : Db}
  {outcomes : List WitnessOutcome} {n : ℕ}

/-- **An honest log is not accused** in a run that never grows the log while the retained head is
the empty one. Requests, key resolution and statements may fail in any pass. -/
theorem honest_never_accused (hfold : sdk.logSurface = none)
    (hstart : start.cursors tenantId log.authority = none)
    (hrun : HonestRun sdk log tenantId NotFromEmpty start outcomes n db) :
    (∀ outcome ∈ outcomes, outcome.status ≠ .alert) ∧
      ∀ cursor, db.cursors tenantId log.authority = some cursor → cursor.alerted = false := by
  obtain ⟨hr, ho⟩ := hrun.clean hfold hstart
  exact ⟨ho, fun cursor hc => (hr cursor hc).1⟩

theorem honest_never_accused_sampleGrown :
    HonestRun sampleSdk sampleLog "default" NotFromEmpty sampleEnrolled
        [sampleOutcome 2 sampleAnchored, sampleOutcome 1 sampleEnrolled] 2 sampleGrown ∧
      sampleGrown.head "default" "r.example" = some (sampleHead 2).head ∧
      (sampleOutcome 2 sampleAnchored).status ≠ .alert ∧
      ∀ cursor, sampleGrown.cursors "default" "r.example" = some cursor →
        cursor.alerted = false := by
  have hg : sampleGrown.head "default" "r.example" = some (sampleHead 2).head := by
    rw [Db.head_eq_toHead, sampleGrown_columns, HeadColumns.toHead_ofHead]
  have hr : HonestRun sampleSdk sampleLog "default" NotFromEmpty sampleEnrolled
      [sampleOutcome 2 sampleAnchored, sampleOutcome 1 sampleEnrolled] 2 sampleGrown := by
    refine honestRun_samplePass (honestRun_samplePass .start (by decide) (by decide) ?_)
      (by decide) (by decide) ?_
    · intro head hh
      cases hh
    · intro head hh hz
      obtain rfl := Option.some.inj (sampleAnchored_head.symm.trans hh)
      exact absurd hz (by decide)
  obtain ⟨ho, ha⟩ := honest_never_accused rfl rfl hr
  exact ⟨hr, hg, ho _ List.mem_cons_self, ha⟩

/-- **The empty log that grows**: the first pass anchors the head of size zero, the second is asked
to accept the proof from zero to one and reports the registry. -/
theorem honest_accused_from_empty :
    HonestRun sampleSdk sampleLog "default" (fun _ _ => True) sampleEnrolled
        [sampleOutcome 1 (samplePass 0 sampleEnrolled), sampleOutcome 0 sampleEnrolled] 1
        (samplePass 1 (samplePass 0 sampleEnrolled)) ∧
      sampleOutcome 1 (samplePass 0 sampleEnrolled) =
        ⟨"r.example", .alert, some "consistency_failed"⟩ ∧
      ((samplePass 1 (samplePass 0 sampleEnrolled)).cursors "default" "r.example").map
        (·.alerted) = some true := by
  refine ⟨?_, by decide +kernel, by decide +kernel⟩
  exact honestRun_samplePass (honestRun_samplePass .start (by decide) (by decide) trivial)
    (by decide) (by decide) trivial

end Accusation

end AcdpControlPlane
