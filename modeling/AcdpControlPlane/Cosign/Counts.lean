import AcdpControlPlane.Cosign.Trust

/-!
# What the host evaluation counts

`hostEvaluateQuorum` reports three numbers: the trusted witnesses that attest the checkpoint, those
among them with a recent cosignature, and the witnesses that attest it under a retired key. As sets
they are described without an order: a witness is in one when some element of the array puts it
there. The loop gives the first number that way. It stops looking at a witness once it is verified,
so the second is about the first element that verifies; and the third loop never asks whether the
witness is trusted.
-/

namespace AcdpControlPlane

open List

section Counts

variable (env : QuorumEnv) (verify : LogCosignature → String → CosignOutcome) (inp : QuorumInputs)

/-- The cosignature names `W` and passes the tuple, clock and signature checks under its key. -/
def attestsFor (W : String) (cosig : LogCosignature) : Bool :=
  cosig.witnessId == W &&
    match inp.witnessKeys.key W with
    | none => false
    | some key => (attest env verify inp key cosig).isOk

/-- The freshness split at the clock of the evaluation. -/
def isFresh (cosig : LogCosignature) : Bool :=
  cosignatureAgeOk env.dateParse cosig env.nowMs inp.maxAgeSecs

/-! ## The description by sets -/

/-- Some element of the array parses to a cosignature that attests for `W` and has the property. -/
def HasElement (P : LogCosignature → Prop) (sigs : List Json) (W : String) : Prop :=
  ∃ raw ∈ sigs, ∃ cosig, parseCosignature env.dateParse raw = .ok (.ok cosig) ∧
    attestsFor env verify inp W cosig = true ∧ P cosig

/-- The trusted witnesses with a current key that some element attests. -/
def witnessedSet (sigs : List Json) : Set String :=
  {W | inp.Current W ∧ HasElement env verify inp (fun _ => True) sigs W}

/-- Those among them that some recent element attests. -/
def freshSet (sigs : List Json) : Set String :=
  {W | inp.Current W ∧ HasElement env verify inp (fun cosig => isFresh env inp cosig = true) sigs W}

/-- The trusted witnesses with a historical key that some element attests. -/
def historicalSet (sigs : List Json) : Set String :=
  {W | (W ∈ inp.trustedWitnessIds ∧ W ∈ inp.witnessKeys.historicalWitnessIds) ∧
    HasElement env verify inp (fun _ => True) sigs W}

structure QuorumCounts where
  witnessed : ℕ
  fresh : ℕ
  historical : ℕ
deriving DecidableEq

def QuorumReport.counts (report : QuorumReport) : QuorumCounts :=
  ⟨report.witnessedCount, report.freshWitnessedCount, report.historicalWitnessedCount⟩

noncomputable def specCounts (sigs : List Json) : QuorumCounts :=
  ⟨(witnessedSet env verify inp sigs).ncard, (freshSet env verify inp sigs).ncard,
    (historicalSet env verify inp sigs).ncard⟩

variable {sigs : List Json} {cosig : LogCosignature} {W : String} {cosigs : List LogCosignature}
  {S : Set String}

theorem specCounts_congr {sigs' : List Json} (hs : ∀ raw, raw ∈ sigs ↔ raw ∈ sigs') :
    specCounts env verify inp sigs = specCounts env verify inp sigs' := by
  have hel : ∀ P W, HasElement env verify inp P sigs W ↔ HasElement env verify inp P sigs' W := by
    intro P W
    simp only [HasElement, hs]
  simp only [specCounts, witnessedSet, freshSet, historicalSet, hel]

variable {env verify inp}

theorem attestsFor_self :
    attestsFor env verify inp cosig.witnessId cosig = true ↔
      ∃ key, inp.witnessKeys.key cosig.witnessId = some key ∧
        attest env verify inp key cosig = .ok () := by
  unfold attestsFor
  cases inp.witnessKeys.key cosig.witnessId with
  | none => simp
  | some key => cases ha : attest env verify inp key cosig <;> simp [Except.isOk, Except.toBool, ha]

theorem witnessId_of_attestsFor
    (ha : attestsFor env verify inp W cosig = true) : cosig.witnessId = W := by
  unfold attestsFor at ha
  rw [Bool.and_eq_true, beq_iff_eq] at ha
  exact ha.1

theorem hasElement_iff {P : LogCosignature → Prop} :
    HasElement env verify inp P sigs W ↔
      ∃ cosig ∈ cosignaturesOf env sigs, attestsFor env verify inp W cosig = true ∧ P cosig := by
  have hp : ∀ raw cosig, cosignatureOf? env raw = some cosig ↔
      parseCosignature env.dateParse raw = .ok (.ok cosig) := by
    intro raw cosig
    unfold cosignatureOf?
    split <;> simp_all
  unfold HasElement cosignaturesOf
  simp only [mem_filterMap, hp]
  constructor
  · rintro ⟨raw, hr, cosig, hc, hP⟩
    exact ⟨cosig, ⟨raw, hr, hc⟩, hP⟩
  · rintro ⟨cosig, ⟨raw, hr, hc⟩, hP⟩
    exact ⟨raw, hr, cosig, hc, hP⟩

theorem attested_iff :
    Attested env verify inp cosigs W ↔
      ∃ cosig ∈ cosigs, attestsFor env verify inp W cosig = true := by
  constructor
  · rintro ⟨key, hk, cosig, hc, rfl, ho⟩
    exact ⟨cosig, hc, attestsFor_self.mpr ⟨key, hk, ho⟩⟩
  · rintro ⟨cosig, hc, ha⟩
    obtain rfl := witnessId_of_attestsFor ha
    obtain ⟨key, hk, ho⟩ := attestsFor_self.mp ha
    exact ⟨key, hk, cosig, hc, rfl, ho⟩

/-! ## The fresh witnesses of the loop -/

/-- The set holds the current witnesses whose first attestation is recent. -/
def FirstFresh (env : QuorumEnv) (verify : LogCosignature → String → CosignOutcome)
    (inp : QuorumInputs) (cosigs : List LogCosignature) (W : String) : Prop :=
  ∃ cosig, cosigs.find? (attestsFor env verify inp W) = some cosig ∧ isFresh env inp cosig = true

theorem firstFresh_append_of_not (hn : attestsFor env verify inp W cosig = false) :
    FirstFresh env verify inp (cosigs ++ [cosig]) W ↔ FirstFresh env verify inp cosigs W := by
  simp [FirstFresh, find?_append, hn]

theorem firstFresh_append_of_attested (ha : Attested env verify inp cosigs W) :
    FirstFresh env verify inp (cosigs ++ [cosig]) W ↔ FirstFresh env verify inp cosigs W := by
  obtain ⟨first, hf⟩ : ∃ first, cosigs.find? (attestsFor env verify inp W) = some first := by
    rw [← Option.isSome_iff_exists, find?_isSome]
    exact attested_iff.mp ha
  simp [FirstFresh, find?_append, hf]

theorem firstFresh_append_new
    (hne : ¬Attested env verify inp cosigs W) (ha : attestsFor env verify inp W cosig = true) :
    FirstFresh env verify inp (cosigs ++ [cosig]) W ↔ isFresh env inp cosig = true := by
  have hn : cosigs.find? (attestsFor env verify inp W) = none := by
    rw [find?_eq_none]
    intro c hc hc'
    exact hne (attested_iff.mpr ⟨c, hc, hc'⟩)
  simp [FirstFresh, find?_append, hn, ha]

/-- The fresh set holds the current witnesses whose first attestation is recent. -/
def FreshSound (env : QuorumEnv) (verify : LogCosignature → String → CosignOutcome)
    (inp : QuorumInputs) (cosigs : List LogCosignature) (s : QuorumSets) : Prop :=
  (s.verified.Nodup ∧ AttestedSet env verify inp inp.Current cosigs s.verified) ∧
    s.freshVerified.Nodup ∧
    ∀ W, W ∈ s.freshVerified ↔ inp.Current W ∧ FirstFresh env verify inp cosigs W

theorem FreshSound.step {s : QuorumSets}
    (hs : FreshSound env verify inp cosigs s) (cosig : LogCosignature) :
    FreshSound env verify inp (cosigs ++ [cosig]) (quorumStep env verify inp s (.ok cosig)) := by
  obtain ⟨⟨hnd, hv⟩, hfr, hm⟩ := hs
  refine ⟨quorumStep_attestedSet hnd hv, ?_⟩
  -- the first attestation of a witness changes only when the element is its first one
  have ho : ∀ W, W ≠ cosig.witnessId → (FirstFresh env verify inp (cosigs ++ [cosig]) W ↔
      FirstFresh env verify inp cosigs W) := by
    intro W hne
    refine firstFresh_append_of_not (Bool.eq_false_iff.mpr fun ha => ?_)
    exact hne (witnessId_of_attestsFor ha).symm
  obtain ⟨-, hk, hsk⟩ | ⟨hc, hno, hok, -, had⟩ := quorumStep_cases env verify inp s cosig
  · rw [hk]
    refine ⟨hfr, fun W => ?_⟩
    rw [hm W, and_congr_right_iff]
    intro hW
    by_cases hn : W = cosig.witnessId
    · subst hn
      by_cases hi : cosig.witnessId ∈ s.verified
      · exact (firstFresh_append_of_attested ((hv _).mp hi).2).symm
      · refine (firstFresh_append_of_not (Bool.eq_false_iff.mpr fun ha => ?_)).symm
        obtain ⟨key, hke, hok⟩ := attestsFor_self.mp ha
        exact hsk hW hi key hke hok
    · exact (ho W hn).symm
  · have hnew : ¬Attested env verify inp cosigs cosig.witnessId := fun hat =>
      hno ((hv _).mpr ⟨hc, hat⟩)
    have hfs := firstFresh_append_new hnew (attestsFor_self.mpr hok)
    have hnot : cosig.witnessId ∉ s.freshVerified := by
      intro hi
      obtain ⟨-, first, hf, -⟩ := (hm _).mp hi
      exact hnew (attested_iff.mpr ⟨first, mem_of_find?_eq_some hf, find?_some hf⟩)
    rw [← isFresh] at had
    rw [had]
    cases hag : isFresh env inp cosig with
    | true =>
      rw [if_pos rfl]
      refine ⟨nodup_addToSet hfr _, fun W => ?_⟩
      rw [mem_addToSet, hm W]
      by_cases hn : W = cosig.witnessId
      · subst hn
        simp [hfs, hag, hc]
      · simp [hn, ho W hn]
    | false =>
      rw [if_neg Bool.false_ne_true]
      refine ⟨hfr, fun W => ?_⟩
      by_cases hn : W = cosig.witnessId
      · subst hn
        simp [hfs, hag, hnot]
      · rw [hm W, ho W hn]

theorem quorumLoop_fresh {s : QuorumSets}
    (hr : forParsed env (quorumStep env verify inp) sigs .empty = .ok s) :
    FreshSound env verify inp (cosignaturesOf env sigs) s :=
  forParsed_invariant (FreshSound env verify inp) (fun _ _ cosig hs => hs.step cosig)
    (fun _ _ _ hs => hs)
    ⟨⟨nodup_nil, fun W => by simp [QuorumSets.empty, Attested]⟩, nodup_nil,
      fun W => by simp [QuorumSets.empty, FirstFresh]⟩ hr

/-! ## The report -/

variable (verify inp) in
theorem hostEvaluateQuorum_spec (hread : Readable env sigs) :
    ∃ s historical, (hostEvaluateQuorum env verify inp sigs).map QuorumReport.counts =
        .ok ⟨s.verified.length, s.freshVerified.length, historical.length⟩ ∧
      FreshSound env verify inp (cosignaturesOf env sigs) s ∧ historical.Nodup ∧
      AttestedSet env verify inp (· ∈ inp.witnessKeys.historicalWitnessIds)
        (cosignaturesOf env sigs) historical := by
  obtain ⟨s, hs⟩ : ∃ s, forParsed env (quorumStep env verify inp) sigs .empty = .ok s :=
    exists_forParsed_iff.mpr hread
  obtain ⟨historical, hhist, hnd, hmem⟩ := countHistoricalWitnesses_spec verify inp hread
  have hsets : quorumSets env verify inp sigs = .ok (s, historical) := by
    unfold quorumSets
    rw [hs, hhist]
    rfl
  refine ⟨s, historical, ?_, quorumLoop_fresh hs, hnd, hmem⟩
  rw [hostEvaluateQuorum, hsets]
  rfl

theorem ncard_of_listed {l : List String} (hn : l.Nodup)
    (hm : ∀ W, W ∈ l ↔ W ∈ S) : S.ncard = l.length := by
  have hS : S = ↑l.toFinset := by
    ext W
    simp [hm W]
  rw [hS, Set.ncard_coe_finset, toFinset_card_of_nodup hn]

theorem ncard_eq_length_iff {l : List String} (hn : l.Nodup)
    (hs : (∀ W ∈ l, W ∈ S) ∨ ∀ W ∈ S, W ∈ l) (hf : S.Finite) :
    l.length = S.ncard ↔ ∀ W, W ∈ l ↔ W ∈ S := by
  have hli : {W | W ∈ l}.ncard = l.length := ncard_of_listed hn fun _ => Iff.rfl
  have hl : {W | W ∈ l}.Finite := finite_toSet l
  constructor
  · intro hc
    have heq : {W | W ∈ l} = S := by
      rcases hs with hs | hs
      · exact Set.eq_of_subset_of_ncard_le hs (by rw [hli, hc]) hf
      · have hi : S ⊆ {W | W ∈ l} := hs
        exact (Set.eq_of_subset_of_ncard_le hi (by rw [hli, hc]) hl).symm
    intro W
    exact Set.ext_iff.mp heq W
  · intro hm
    exact (ncard_of_listed hn hm).symm

theorem finite_of_subset_list (l : List String) (hs : ∀ W ∈ S, W ∈ l) :
    S.Finite := (finite_toSet l).subset hs

/-- What the report needs of the array: no element makes the parser throw, the first attestation of
a current witness is recent if any is, and no untrusted witness is attested under a historical
key. -/
structure Regular (env : QuorumEnv) (verify : LogCosignature → String → CosignOutcome)
    (inp : QuorumInputs) (sigs : List Json) : Prop where
  readable : Readable env sigs
  firstFresh : ∀ W, inp.Current W →
    (∃ cosig ∈ cosignaturesOf env sigs, attestsFor env verify inp W cosig = true ∧
      isFresh env inp cosig = true) →
    FirstFresh env verify inp (cosignaturesOf env sigs) W
  trusted : ∀ W ∈ inp.witnessKeys.historicalWitnessIds,
    (∃ cosig ∈ cosignaturesOf env sigs, attestsFor env verify inp W cosig = true) →
    W ∈ inp.trustedWitnessIds

variable (env verify inp) in
/-- **When the host evaluation meets its description by sets**: exactly on the regular arrays. The
description does not depend on the order or the multiplicity of the elements. -/
theorem hostEvaluateQuorum_counts_iff (sigs : List Json) :
    ((hostEvaluateQuorum env verify inp sigs).map QuorumReport.counts =
        .ok (specCounts env verify inp sigs) ↔ Regular env verify inp sigs) ∧
      ∀ sigs', (∀ raw, raw ∈ sigs ↔ raw ∈ sigs') →
        specCounts env verify inp sigs = specCounts env verify inp sigs' := by
  refine ⟨?_, fun sigs' hsame => specCounts_congr env verify inp hsame⟩
  by_cases hread : Readable env sigs
  swap
  · refine ⟨fun hcts => ?_, fun hreg => absurd hreg.readable hread⟩
    cases hrep : hostEvaluateQuorum env verify inp sigs with
    | ok report =>
      refine absurd ?_ hread
      apply exists_forParsed_iff.mp
      unfold hostEvaluateQuorum quorumSets at hrep
      cases hloop : forParsed env (quorumStep env verify inp) sigs .empty with
      | ok s => exact ⟨s, rfl⟩
      | error e =>
        rw [hloop] at hrep
        cases hrep
    | error e =>
      rw [hrep] at hcts
      cases hcts
  obtain ⟨s, historical, hcts, ⟨⟨hvnod, hvd⟩, hfnod, hfr⟩, hhnod, hhis⟩ :=
    hostEvaluateQuorum_spec verify inp hread
  -- each count is right when the loop's list and the set have the same members
  have hwit : s.verified.length = (witnessedSet env verify inp sigs).ncard := by
    refine (ncard_of_listed hvnod fun W => ?_).symm
    rw [hvd W, attested_iff, witnessedSet, Set.mem_ofPred_eq, hasElement_iff]
    simp
  have hfreshIff : s.freshVerified.length = (freshSet env verify inp sigs).ncard ↔
      ∀ W, inp.Current W → (∃ cosig ∈ cosignaturesOf env sigs,
        attestsFor env verify inp W cosig = true ∧ isFresh env inp cosig = true) →
        FirstFresh env verify inp (cosignaturesOf env sigs) W := by
    rw [ncard_eq_length_iff hfnod (Or.inl fun W hW => ?_)
      (finite_of_subset_list inp.trustedWitnessIds fun W hW => hW.1.1)]
    · simp only [hfr, freshSet, Set.mem_ofPred_eq, hasElement_iff, and_congr_right_iff]
      refine forall_congr' fun W => imp_congr_right fun hW => ⟨Iff.mpr, fun h => ⟨?_, h⟩⟩
      rintro ⟨cosig, hfind, hage⟩
      exact ⟨cosig, mem_of_find?_eq_some hfind, find?_some hfind, hage⟩
    · obtain ⟨hcurr, cosig, hfind, hage⟩ := (hfr W).mp hW
      refine ⟨hcurr, hasElement_iff.mpr ⟨cosig, ?_⟩⟩
      exact ⟨mem_of_find?_eq_some hfind, find?_some hfind, hage⟩
  have hhistIff : historical.length = (historicalSet env verify inp sigs).ncard ↔
      ∀ W ∈ inp.witnessKeys.historicalWitnessIds,
        (∃ cosig ∈ cosignaturesOf env sigs, attestsFor env verify inp W cosig = true) →
        W ∈ inp.trustedWitnessIds := by
    rw [ncard_eq_length_iff hhnod (Or.inr fun W hW => ?_)
      (finite_of_subset_list inp.trustedWitnessIds fun W hW => hW.1.1)]
    · simp only [hhis _, attested_iff, historicalSet, Set.mem_ofPred_eq, hasElement_iff,
        and_true]
      refine forall_congr' fun W => ⟨fun h hW hatt => (h.mp ⟨hW, hatt⟩).1.1, fun h => ?_⟩
      exact ⟨fun ⟨hW, hatt⟩ => ⟨⟨h hW hatt, hW⟩, hatt⟩, fun ⟨⟨_, hW⟩, hatt⟩ =>
        ⟨hW, hatt⟩⟩
    · obtain ⟨⟨-, hhist⟩, helem⟩ := hW
      rw [hhis W, attested_iff]
      exact ⟨hhist, by simpa using hasElement_iff.mp helem⟩
  rw [hcts, Except.ok.injEq, specCounts, QuorumCounts.mk.injEq, hfreshIff,
    hhistIff]
  exact ⟨fun ⟨_, hfst, htru⟩ => ⟨hread, hfst, htru⟩, fun hreg =>
    ⟨hwit, hreg.firstFresh, hreg.trusted⟩⟩

end Counts

/-! ## One witness with two cosignatures -/

/-- A cosignature of the sample checkpoint by `did:web:w`, at a given time. -/
def cosignatureAt (witnessedAt : String) : Json :=
  .obj [("cosignature_version", .str "acdp-cosig/1"), ("witness_id", .str "did:web:w"),
    ("witnessed_checkpoint", .obj [("log_id", .str sampleCheckpoint.logId), ("tree_size", .num 1),
      ("root_hash", .str sampleCheckpoint.rootHash),
      ("timestamp", .str sampleCheckpoint.timestamp)]),
    ("witnessed_at", .str witnessedAt),
    ("signature", .obj [("algorithm", .str "ed25519"), ("key_id", .str "did:web:w#k"),
      ("value", .str "keyW")])]

def staleElement : Json := cosignatureAt "2024-01-01T00:00:00.000Z"

def recentElement : Json := cosignatureAt "2024-01-01T01:00:00.000Z"

/-- The evaluation takes place at one o'clock. -/
def atOneOClock : QuorumEnv where
  dateParse text := if text = "2024-01-01T01:00:00.000Z" then some 3600000 else some 0
  resolveWitnessKey _ := .error ⟨"did:web fetch failed"⟩
  nowMs := 3600000

/-- `did:web:w` has a key, current or historical; the window is five minutes. -/
def inputsW (trusted historical : List String) : QuorumInputs where
  checkpoint := sampleCheckpoint
  trustedWitnessIds := trusted
  witnessKeys := ⟨[("did:web:w", "keyW")], historical⟩
  minWitnesses := 1
  maxAgeSecs := some 300
  maxClockSkewMs := 120000

theorem hostEvaluateQuorum_counts_iff_recent :
    (hostEvaluateQuorum atOneOClock (tsVerifyCosignature labelCrypto) (inputsW ["did:web:w"] [])
        [recentElement, staleElement]).map QuorumReport.counts = .ok ⟨1, 1, 0⟩ ∧
      (hostEvaluateQuorum atOneOClock (tsVerifyCosignature labelCrypto) (inputsW ["did:web:w"] [])
          [recentElement, staleElement]).map QuorumReport.counts =
        .ok (specCounts atOneOClock (tsVerifyCosignature labelCrypto) (inputsW ["did:web:w"] [])
          [recentElement, staleElement]) := by
  refine ⟨by decide, (hostEvaluateQuorum_counts_iff _ _ _ _).1.mpr ⟨?_, ?_, ?_⟩⟩
  · intro raw hr
    rcases mem_cons.mp hr with rfl | hr
    · exact ⟨_, rfl⟩
    · obtain rfl := mem_singleton.mp hr
      exact ⟨_, rfl⟩
  · rintro W ⟨ht, -⟩ -
    obtain rfl := mem_singleton.mp ht
    refine ⟨_, rfl, by decide⟩
  · intro W hh
    cases hh

/-- **Three ways to miss the description**: a stale cosignature before a recent one hides it, a
witness that nobody trusts is counted under a retired key, and an element whose `witness_id` has a
`toString` member makes the evaluation throw. -/
theorem hostEvaluateQuorum_misses_description :
    (hostEvaluateQuorum atOneOClock (tsVerifyCosignature labelCrypto) (inputsW ["did:web:w"] [])
        [staleElement, recentElement]).map QuorumReport.counts = .ok ⟨1, 0, 0⟩ ∧
      (hostEvaluateQuorum atOneOClock (tsVerifyCosignature labelCrypto) (inputsW ["did:web:w"] [])
        [recentElement, staleElement]).map QuorumReport.counts = .ok ⟨1, 1, 0⟩ ∧
      "did:web:w" ∈ freshSet atOneOClock (tsVerifyCosignature labelCrypto)
        (inputsW ["did:web:w"] []) [staleElement, recentElement] ∧
      (hostEvaluateQuorum atOneOClock (tsVerifyCosignature labelCrypto) (inputsW [] ["did:web:w"])
        [recentElement]).map QuorumReport.counts = .ok ⟨0, 0, 1⟩ ∧
      historicalSet atOneOClock (tsVerifyCosignature labelCrypto) (inputsW [] ["did:web:w"])
        [recentElement] = ∅ ∧
      (hostEvaluateQuorum atOneOClock (tsVerifyCosignature labelCrypto) (inputsW ["did:web:w"] [])
        [.obj (cosignatureMembers.map fun k =>
          (k, if k = "cosignature_version" then .str COSIGNATURE_VERSION
            else .obj [("toString", .null)]))]).map QuorumReport.counts =
        .error ⟨"Cannot convert object to primitive value"⟩ := by
  have hc : (inputsW ["did:web:w"] []).Current "did:web:w" := ⟨by decide, by decide⟩
  refine ⟨by decide, by decide, ⟨hc, ?_⟩, by decide, ?_, by decide⟩
  · exact ⟨recentElement, by simp, _, rfl, by decide, by decide⟩
  · rw [Set.eq_empty_iff_forall_notMem]
    rintro W ⟨⟨ht, -⟩, -⟩
    cases ht

end AcdpControlPlane
