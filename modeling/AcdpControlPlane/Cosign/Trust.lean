import AcdpControlPlane.Cosign.Quorum

/-!
# Whose cosignatures count

A witness is counted when some cosignature of the array attests the checkpoint under the one key
that the first loop kept for it. That key comes from whichever cosignature names the witness first
and resolves, before anything ties its key id to the witness. Both results below are about what
this lets the other elements of the array do.
-/

namespace AcdpControlPlane

open List

/-! ## The array past the parser -/

section Parsed

variable (env : QuorumEnv)

def cosignatureOf? (raw : Json) : Option LogCosignature :=
  match parseCosignature env.dateParse raw with
  | .ok (.ok cosig) => some cosig
  | _ => none

/-- The well-formed cosignatures of the array, in order. -/
def cosignaturesOf (sigs : List Json) : List LogCosignature := sigs.filterMap (cosignatureOf? env)

/-- No element makes the parser throw. -/
def Readable (sigs : List Json) : Prop :=
  ∀ raw ∈ sigs, ∃ parsed, parseCosignature env.dateParse raw = .ok parsed

variable {env}

theorem exists_forParsed_iff {σ : Type} {step : σ → Except String LogCosignature → σ} {sigs : List Json}
    {s : σ} : (∃ s', forParsed env step sigs s = .ok s') ↔ Readable env sigs := by
  induction sigs generalizing s with
  | nil => simp [forParsed, Readable]
  | cons raw rest ih =>
    have hc : Readable env (raw :: rest) ↔
        (∃ parsed, parseCosignature env.dateParse raw = .ok parsed) ∧ Readable env rest :=
      forall_mem_cons
    rw [forParsed, hc]
    cases hp : parseCosignature env.dateParse raw with
    | error e => simp [bind, Except.bind]
    | ok parsed => simpa [bind, Except.bind] using ih

theorem forParsed_invariant {σ : Type} {step : σ → Except String LogCosignature → σ}
    (P : List LogCosignature → σ → Prop)
    (ho : ∀ cosigs s cosig, P cosigs s → P (cosigs ++ [cosig]) (step s (.ok cosig)))
    (her : ∀ cosigs s reason, P cosigs s → P cosigs (step s (.error reason)))
    {sigs : List Json} {s s' : σ} (hs : P [] s) (hr : forParsed env step sigs s = .ok s') :
    P (cosignaturesOf env sigs) s' := by
  suffices hg : ∀ cosigs s, P cosigs s → forParsed env step sigs s = .ok s' →
      P (cosigs ++ cosignaturesOf env sigs) s' from hg [] s hs hr
  clear hs hr s
  induction sigs with
  | nil =>
    intro cosigs s hP hr
    cases hr
    simpa [cosignaturesOf] using hP
  | cons raw rest ih =>
    intro cosigs s hP hr
    rw [forParsed] at hr
    cases hp : parseCosignature env.dateParse raw with
    | error e =>
      rw [hp] at hr
      cases hr
    | ok parsed =>
      rw [hp] at hr
      cases parsed with
      | error reason =>
        have hn : cosignatureOf? env raw = none := by rw [cosignatureOf?, hp]
        rw [cosignaturesOf, filterMap_cons, hn]
        exact ih cosigs _ (her cosigs s reason hP) hr
      | ok cosig =>
        have hso : cosignatureOf? env raw = some cosig := by rw [cosignatureOf?, hp]
        have hre := ih (cosigs ++ [cosig]) _ (ho cosigs s cosig hP) hr
        rw [cosignaturesOf, filterMap_cons, hso]
        simpa [cosignaturesOf] using hre

end Parsed

/-! ## The key of a witness -/

section Keys

variable (env : QuorumEnv) (trusted : List String)

/-- The key kept for a witness: that of the first cosignature that names it and resolves. -/
def keyFor (cosigs : List LogCosignature) (W : String) : Option ResolvedWitnessKey :=
  if W ∈ trusted then (cosigs.filter (·.witnessId = W)).findSome? (witnessKeyOf env) else none

variable {env trusted}

theorem mem_trusted_of_keyFor {cosigs : List LogCosignature} {W : String}
    {resolved : ResolvedWitnessKey} (hk : keyFor env trusted cosigs W = some resolved) :
    W ∈ trusted := by
  by_contra hW
  rw [keyFor, if_neg hW] at hk
  cases hk

theorem keyFor_append_singleton (cosigs : List LogCosignature) (cosig : LogCosignature) (W : String) :
    keyFor env trusted (cosigs ++ [cosig]) W =
      (keyFor env trusted cosigs W).or
        (if W ∈ trusted ∧ cosig.witnessId = W then witnessKeyOf env cosig else none) := by
  unfold keyFor
  by_cases hW : W ∈ trusted
  · by_cases hn : cosig.witnessId = W
    · simp [hW, hn, findSome?_append]
    · simp [hW, hn]
  · simp [hW]

def WitnessKeys.Matches (env : QuorumEnv) (trusted : List String) (cosigs : List LogCosignature)
    (ks : WitnessKeys) : Prop :=
  ∀ W, ks.key W = (keyFor env trusted cosigs W).map ResolvedWitnessKey.publicKeyB64 ∧
    (W ∈ ks.historicalWitnessIds ↔ ∃ key, keyFor env trusted cosigs W = some ⟨key, true⟩)

theorem keyStep_matches {cosigs : List LogCosignature} {ks : WitnessKeys} {cosig : LogCosignature}
    (hks : ks.Matches env trusted cosigs) :
    (keyStep env trusted ks (.ok cosig)).Matches env trusted (cosigs ++ [cosig]) := by
  intro W
  rw [keyFor_append_singleton]
  obtain ⟨hk, hh⟩ := hks W
  -- the element changes nothing unless it names `W`, `W` is trusted and `W` has no key yet
  by_cases hW : W ∈ trusted ∧ cosig.witnessId = W
  · obtain ⟨ht, rfl⟩ := hW
    rw [if_pos ⟨ht, rfl⟩, keyStep, if_neg (not_not.mpr ht)]
    cases hf : keyFor env trusted cosigs cosig.witnessId with
    | some resolved =>
      rw [hf] at hk hh
      rw [if_pos (by simp [hk])]
      exact ⟨hk, hh⟩
    | none =>
      rw [hf] at hk hh
      rw [if_neg (by simp [hk])]
      cases ho : witnessKeyOf env cosig with
      | none => exact ⟨hk, hh⟩
      | some resolved =>
        have hno : cosig.witnessId ∉ ks.historicalWitnessIds := by simp [hh]
        refine ⟨by simp, ?_⟩
        rw [WitnessKeys.mem_historical_insert, or_iff_left hno, Option.none_or]
        obtain ⟨key, hi⟩ := resolved
        cases hi <;> simp
  · rw [if_neg hW, Option.or_none, keyStep]
    split
    · exact ⟨hk, hh⟩
    · split
      · exact ⟨hk, hh⟩
      · next ht _ =>
        have hn : W ≠ cosig.witnessId := by
          rintro rfl
          exact hW ⟨not_not.mp ht, rfl⟩
        split
        · next resolved _ =>
          refine ⟨?_, ?_⟩
          · rw [WitnessKeys.key_insert_of_ne ks resolved hn, hk]
          · rw [WitnessKeys.mem_historical_insert, ← hh]
            exact or_iff_right fun hs => hn hs.2
        · exact ⟨hk, hh⟩

theorem resolveWitnessKeys_spec {sigs : List Json} {ks : WitnessKeys}
    (hr : resolveWitnessKeys env trusted sigs = .ok ks) :
    ks.Matches env trusted (cosignaturesOf env sigs) := by
  refine forParsed_invariant (fun cosigs ks => ks.Matches env trusted cosigs)
    (fun cosigs ks cosig hk => keyStep_matches hk) (fun cosigs ks reason hk => hk) ?_ hr
  intro W
  simp [WitnessKeys.empty, WitnessKeys.key, keyFor]

end Keys

/-! ## Which witnesses are counted -/

section Counted

variable (env : QuorumEnv) (verify : LogCosignature → String → CosignOutcome)

def Attested (inp : QuorumInputs) (cosigs : List LogCosignature) (W : String) : Prop :=
  ∃ key, inp.witnessKeys.key W = some key ∧
    ∃ cosig ∈ cosigs, cosig.witnessId = W ∧ attest env verify inp key cosig = .ok ()

variable {env verify} {inp : QuorumInputs}

theorem attested_append_singleton {cosigs : List LogCosignature} {cosig : LogCosignature} {W : String} :
    Attested env verify inp (cosigs ++ [cosig]) W ↔
      Attested env verify inp cosigs W ∨
        (cosig.witnessId = W ∧ ∃ key, inp.witnessKeys.key W = some key ∧
          attest env verify inp key cosig = .ok ()) := by
  constructor
  · rintro ⟨key, hk, c, hc, hn, ha⟩
    rcases mem_append.mp hc with hc | hc
    · exact Or.inl ⟨key, hk, c, hc, hn, ha⟩
    · obtain rfl := mem_singleton.mp hc
      exact Or.inr ⟨hn, key, hk, ha⟩
  · rintro (⟨key, hk, c, hc, hn, ha⟩ | ⟨hn, key, hk, ha⟩)
    · exact ⟨key, hk, c, mem_append_left _ hc, hn, ha⟩
    · exact ⟨key, hk, cosig, by simp, hn, ha⟩

/-- The set holds the witnesses of a kind `Q` that are attested. -/
def AttestedSet (env : QuorumEnv)
    (verify : LogCosignature → String → CosignOutcome) (inp : QuorumInputs) (Q : String → Prop)
    (cosigs : List LogCosignature) (S : List String) : Prop :=
  ∀ W, W ∈ S ↔ Q W ∧ Attested env verify inp cosigs W

section Step

variable {Q : String → Prop} {cosigs : List LogCosignature} {cosig : LogCosignature}
  {S : List String}

theorem AttestedSet.skip (hS : AttestedSet env verify inp Q cosigs S)
    (hn : Q cosig.witnessId → cosig.witnessId ∉ S →
      ∀ key, inp.witnessKeys.key cosig.witnessId = some key →
        attest env verify inp key cosig ≠ .ok ()) :
    AttestedSet env verify inp Q (cosigs ++ [cosig]) S := by
  intro W
  rw [attested_append_singleton]
  constructor
  · intro hW
    obtain ⟨hQ, ha⟩ := (hS W).mp hW
    exact ⟨hQ, Or.inl ha⟩
  · rintro ⟨hQ, ha | ⟨rfl, key, hk, ho⟩⟩
    · exact (hS W).mpr ⟨hQ, ha⟩
    · by_contra hno
      exact hn hQ hno key hk ho

theorem AttestedSet.add (hS : AttestedSet env verify inp Q cosigs S) (hQ : Q cosig.witnessId)
    {key : String} (hk : inp.witnessKeys.key cosig.witnessId = some key)
    (ho : attest env verify inp key cosig = .ok ()) :
    AttestedSet env verify inp Q (cosigs ++ [cosig]) (addToSet S cosig.witnessId) := by
  intro W
  rw [mem_addToSet, hS W, attested_append_singleton]
  constructor
  · rintro (⟨hQ, ha⟩ | rfl)
    · exact ⟨hQ, Or.inl ha⟩
    · exact ⟨hQ, Or.inr ⟨rfl, key, hk, ho⟩⟩
  · rintro ⟨hQ, ha | ⟨rfl, -⟩⟩
    · exact Or.inl ⟨hQ, ha⟩
    · exact Or.inr rfl

theorem attest_ne_ok_of_key_none (hn : inp.witnessKeys.key cosig.witnessId = none) (key : String)
    (hk : inp.witnessKeys.key cosig.witnessId = some key) :
    attest env verify inp key cosig ≠ .ok () := by
  rw [hn] at hk
  cases hk

theorem attest_ne_ok_of_error {key reason : String}
    (hk : inp.witnessKeys.key cosig.witnessId = some key)
    (her : attest env verify inp key cosig = .error reason) (key' : String)
    (hk' : inp.witnessKeys.key cosig.witnessId = some key') :
    attest env verify inp key' cosig ≠ .ok () := by
  obtain rfl : key = key' := Option.some.inj (hk.symm.trans hk')
  rw [her]
  exact fun h => nomatch h

def QuorumInputs.Current (inp : QuorumInputs) (W : String) : Prop :=
  W ∈ inp.trustedWitnessIds ∧ W ∉ inp.witnessKeys.historicalWitnessIds

variable (env verify inp) in
theorem quorumStep_cases (s : QuorumSets) (cosig : LogCosignature) :
    ((quorumStep env verify inp s (.ok cosig)).verified = s.verified ∧
        (quorumStep env verify inp s (.ok cosig)).freshVerified = s.freshVerified ∧
        (inp.Current cosig.witnessId → cosig.witnessId ∉ s.verified →
          ∀ key, inp.witnessKeys.key cosig.witnessId = some key →
            attest env verify inp key cosig ≠ .ok ())) ∨
      (inp.Current cosig.witnessId ∧ cosig.witnessId ∉ s.verified ∧
        (∃ key, inp.witnessKeys.key cosig.witnessId = some key ∧
          attest env verify inp key cosig = .ok ()) ∧
        (quorumStep env verify inp s (.ok cosig)).verified =
          addToSet s.verified cosig.witnessId ∧
        (quorumStep env verify inp s (.ok cosig)).freshVerified =
          if cosignatureAgeOk env.dateParse cosig env.nowMs inp.maxAgeSecs then
            addToSet s.freshVerified cosig.witnessId
          else s.freshVerified) := by
  unfold quorumStep
  dsimp only
  split
  · next hu => exact Or.inl ⟨rfl, rfl, fun hQ => absurd hQ.1 hu⟩
  split
  · next hh => exact Or.inl ⟨rfl, rfl, fun hQ => absurd hh hQ.2⟩
  split
  · next hi => exact Or.inl ⟨rfl, rfl, fun _ hn => absurd hi hn⟩
  next ht hc hn =>
  split
  · next hno => exact Or.inl ⟨rfl, rfl, fun _ _ => attest_ne_ok_of_key_none hno⟩
  next key hk =>
  split
  · next reason her => exact Or.inl ⟨rfl, rfl, fun _ _ => attest_ne_ok_of_error hk her⟩
  next ho =>
  exact Or.inr ⟨⟨not_not.mp ht, hc⟩, hn, ⟨key, hk, ho⟩, rfl, rfl⟩

theorem quorumStep_attestedSet {s : QuorumSets} (hn : s.verified.Nodup)
    (hs : AttestedSet env verify inp inp.Current cosigs s.verified) :
    (quorumStep env verify inp s (.ok cosig)).verified.Nodup ∧
      AttestedSet env verify inp inp.Current (cosigs ++ [cosig])
        (quorumStep env verify inp s (.ok cosig)).verified := by
  obtain ⟨hv, -, hne⟩ | ⟨hQ, -, ⟨key, hk, ho⟩, hv, -⟩ :=
    quorumStep_cases env verify inp s cosig
  · rw [hv]
    exact ⟨hn, hs.skip hne⟩
  · rw [hv]
    exact ⟨nodup_addToSet hn _, hs.add hQ hk ho⟩

theorem historicalStep_attestedSet (hnd : S.Nodup)
    (hs : AttestedSet env verify inp (· ∈ inp.witnessKeys.historicalWitnessIds) cosigs S) :
    (historicalStep env verify inp S (.ok cosig)).Nodup ∧
      AttestedSet env verify inp (· ∈ inp.witnessKeys.historicalWitnessIds) (cosigs ++ [cosig])
        (historicalStep env verify inp S (.ok cosig)) := by
  unfold historicalStep
  dsimp only
  split
  · next hor => exact ⟨hnd, hs.skip fun hhist hnot => absurd hor (by simp [hhist, hnot])⟩
  next hor =>
  split
  · next hnone => exact ⟨hnd, hs.skip fun _ _ => attest_ne_ok_of_key_none hnone⟩
  next key hkey =>
  split
  · next reason herr => exact ⟨hnd, hs.skip fun _ _ => attest_ne_ok_of_error hkey herr⟩
  next hok =>
  exact ⟨nodup_addToSet hnd _, hs.add (not_not.mp fun hun => hor (Or.inl hun)) hkey hok⟩

end Step

variable {sigs : List Json}

theorem quorumLoop_spec {s : QuorumSets}
    (hr : forParsed env (quorumStep env verify inp) sigs .empty = .ok s) :
    s.verified.Nodup ∧
      AttestedSet env verify inp inp.Current (cosignaturesOf env sigs) s.verified :=
  forParsed_invariant
    (fun cosigs s => s.verified.Nodup ∧ AttestedSet env verify inp inp.Current cosigs s.verified)
    (fun cosigs s cosig hP => quorumStep_attestedSet hP.1 hP.2) (fun cosigs s reason hP => hP)
    ⟨nodup_nil, fun W => by simp [QuorumSets.empty, Attested]⟩ hr

variable (verify inp) in
theorem countHistoricalWitnesses_spec (hread : Readable env sigs) :
    ∃ historical, countHistoricalWitnesses env verify inp sigs = .ok historical ∧
      historical.Nodup ∧
      AttestedSet env verify inp (· ∈ inp.witnessKeys.historicalWitnessIds)
        (cosignaturesOf env sigs) historical := by
  unfold countHistoricalWitnesses
  split
  · next hnone =>
    have hnil : inp.witnessKeys.historicalWitnessIds = [] := length_eq_zero_iff.mp hnone
    exact ⟨[], rfl, nodup_nil, fun W => by simp [hnil]⟩
  · obtain ⟨historical, hrun⟩ : ∃ historical,
        forParsed env (historicalStep env verify inp) sigs [] = .ok historical :=
      exists_forParsed_iff.mpr hread
    refine ⟨historical, hrun, ?_⟩
    exact forParsed_invariant
      (fun cosigs S => S.Nodup ∧
        AttestedSet env verify inp (· ∈ inp.witnessKeys.historicalWitnessIds) cosigs S)
      (fun cosigs S cosig hS => historicalStep_attestedSet hS.1 hS.2)
      (fun cosigs S reason hS => hS) ⟨nodup_nil, fun W => by simp [Attested]⟩ hrun

variable {crypto : Crypto}

variable (env) in
def Eligible (policy : QuorumPolicy) (checkpoint : LogCheckpoint) (cosig : LogCosignature) : Prop :=
  tupleMatches cosig checkpoint = true ∧
    cosignatureFreshnessOk env.dateParse cosig env.nowMs (policy.maxClockSkewSeconds * 1000) =
      .ok () ∧
    cosig.signature.algorithm = "ed25519" ∧ stripFragment cosig.signature.keyId = cosig.witnessId

theorem attest_eq_ok {policy : QuorumPolicy} {checkpoint : LogCheckpoint} {ks : WitnessKeys}
    {key : String} {cosig : LogCosignature} :
    attest env (tsVerifyCosignature crypto) (quorumInputs policy checkpoint ks) key cosig =
        .ok () ↔
      Eligible env policy checkpoint cosig ∧ cosig.SignedBy crypto key := by
  have hv : tsVerifyCosignature crypto cosig key = .ok () ↔ _ := tsVerifyCosignature_eq_ok
  unfold attest Eligible quorumInputs
  cases tupleMatches cosig checkpoint with
  | false => simp
  | true =>
    cases hf : cosignatureFreshnessOk env.dateParse cosig env.nowMs
        (policy.maxClockSkewSeconds * 1000) with
    | error e => simp
    | ok u =>
      simp only [Bool.not_true, Bool.false_eq_true, if_false, true_and, and_assoc]
      rw [← hv]
      cases tsVerifyCosignature crypto cosig key with
      | error e => simp
      | ok u => simp

variable {policy : QuorumPolicy} {checkpoint : LogCheckpoint}

/-- The witness is counted among those whose key is historical, or among those whose key is not. -/
def Counted (env : QuorumEnv) (crypto : Crypto) (policy : QuorumPolicy)
    (checkpoint : LogCheckpoint) (sigs : List Json) (historical : Bool) (W : String) : Prop :=
  ∃ key, keyFor env policy.trusted (cosignaturesOf env sigs) W = some ⟨key, historical⟩ ∧
    ∃ cosig ∈ cosignaturesOf env sigs, cosig.witnessId = W ∧
      Eligible env policy checkpoint cosig ∧ cosig.SignedBy crypto key

theorem counted_iff_attested {ks : WitnessKeys}
    (hks : ks.Matches env policy.trusted (cosignaturesOf env sigs)) {W : String} :
    (Counted env crypto policy checkpoint sigs false W ↔
        (W ∈ policy.trusted ∧ W ∉ ks.historicalWitnessIds) ∧
          Attested env (tsVerifyCosignature crypto) (quorumInputs policy checkpoint ks)
            (cosignaturesOf env sigs) W) ∧
      (Counted env crypto policy checkpoint sigs true W ↔
        W ∈ ks.historicalWitnessIds ∧
          Attested env (tsVerifyCosignature crypto) (quorumInputs policy checkpoint ks)
            (cosignaturesOf env sigs) W) := by
  obtain ⟨hk, hh⟩ := hks W
  unfold Counted Attested
  simp only [attest_eq_ok]
  rw [show (quorumInputs policy checkpoint ks).witnessKeys = ks from rfl, hk, hh]
  cases hf : keyFor env policy.trusted (cosignaturesOf env sigs) W with
  | none => simp
  | some resolved =>
    have ht := mem_trusted_of_keyFor hf
    obtain ⟨key, hi⟩ := resolved
    cases hi <;> simp [ht]

variable (crypto checkpoint) in
theorem mem_countedWitnesses (hen : policy.enabled = true) (hr : Readable env sigs) :
    (countedWitnesses env crypto policy checkpoint sigs).1.Nodup ∧
      ∀ W, (W ∈ (countedWitnesses env crypto policy checkpoint sigs).1 ↔
          Counted env crypto policy checkpoint sigs false W) ∧
        (W ∈ (countedWitnesses env crypto policy checkpoint sigs).2 ↔
          Counted env crypto policy checkpoint sigs true W) := by
  obtain ⟨ks, hk⟩ : ∃ ks, resolveWitnessKeys env policy.trusted sigs = .ok ks :=
    exists_forParsed_iff.mpr hr
  have hm := resolveWitnessKeys_spec hk
  set inp := quorumInputs policy checkpoint ks with hin
  obtain ⟨s, hs⟩ : ∃ s, forParsed env (quorumStep env (tsVerifyCosignature crypto) inp) sigs .empty = .ok s :=
    exists_forParsed_iff.mpr hr
  have hv := quorumLoop_spec hs
  obtain ⟨hi, hh, -, hc⟩ :=
    countHistoricalWitnesses_spec (tsVerifyCosignature crypto) inp hr
  have hse : countedWitnesses env crypto policy checkpoint sigs = (s.verified, hi) := by
    unfold countedWitnesses quorumSets
    simp [hen, hk, bind, Except.bind, ← hin, hs, hh, pure, Except.pure]
  rw [hse]
  refine ⟨hv.1, fun W => ⟨?_, ?_⟩⟩
  · rw [hv.2 W, (counted_iff_attested hm).1]
    rfl
  · rw [hc W, (counted_iff_attested hm).2]
    rfl

theorem countedWitnesses_eq_nil (ho : ¬(policy.enabled = true ∧ Readable env sigs)) :
    countedWitnesses env crypto policy checkpoint sigs = ([], []) := by
  unfold countedWitnesses
  by_cases hen : policy.enabled = true
  · have ht : ∀ ks, resolveWitnessKeys env policy.trusted sigs ≠ .ok ks := fun ks hk =>
      ho ⟨hen, exists_forParsed_iff.mp ⟨ks, hk⟩⟩
    cases hk : resolveWitnessKeys env policy.trusted sigs with
    | error e => simp [hen, bind, Except.bind]
    | ok ks => exact absurd hk (ht ks)
  · simp [hen]

end Counted

/-! ## One key for one witness -/

/-- The oracle under which the cosignatures of `W` verify under `κ` and nothing else does. -/
def singleKeyCrypto (W κ : String) : Crypto where
  canonicalize
    | .obj o => Json.strOf (Json.get o "witness_id")
    | _ => none
  sha256Hex := id
  verifySignatureB64 key message _ := key == κ && message == "sha256:" ++ W

theorem signedBy_singleKeyCrypto {W κ key : String} {cosig : LogCosignature} :
    cosig.SignedBy (singleKeyCrypto W κ) key ↔ cosig.witnessId = W ∧ key = κ := by
  have hh : cosignatureHash (singleKeyCrypto W κ) cosig.unsigned =
      some ("sha256:" ++ cosig.witnessId) := rfl
  have ha : "sha256:" ++ cosig.witnessId = "sha256:" ++ W ↔ cosig.witnessId = W := by
    rw [← String.toList_inj, String.toList_append, String.toList_append,
      append_cancel_left_eq, String.toList_inj]
  unfold LogCosignature.SignedBy
  rw [hh]
  simp only [Option.some.injEq, exists_eq_left', singleKeyCrypto, Bool.and_eq_true, beq_iff_eq,
    ha]
  exact and_comm

/-! ## An array with two documents behind it -/

/-- A checkpoint of the log of `did:web:r`. -/
def sampleCheckpoint : LogCheckpoint :=
  ⟨"did:web:r/log/1", 1, (Digest.replicate 0).toWire, "2024-01-01T00:00:00.000Z",
    ⟨"ed25519", "did:web:r#k", ""⟩⟩

def cosignatureJson (witnessId keyId value : String) : Json :=
  .obj [("cosignature_version", .str "acdp-cosig/1"), ("witness_id", .str witnessId),
    ("witnessed_checkpoint", .obj [("log_id", .str sampleCheckpoint.logId), ("tree_size", .num 1),
      ("root_hash", .str sampleCheckpoint.rootHash),
      ("timestamp", .str sampleCheckpoint.timestamp)]),
    ("witnessed_at", .str sampleCheckpoint.timestamp),
    ("signature", .obj [("algorithm", .str "ed25519"), ("key_id", .str keyId),
      ("value", .str value)])]

/-- The witness `did:web:w` publishes `keyW`, and `did:web:m` publishes `keyM`. -/
def twoDocuments : QuorumEnv where
  dateParse _ := some 0
  resolveWitnessKey keyId :=
    if stripFragment keyId = "did:web:w" then .ok ⟨"keyW", false⟩
    else if stripFragment keyId = "did:web:m" then .ok ⟨"keyM", false⟩
    else .error ⟨"did:web fetch failed"⟩
  nowMs := 0

def publishedKeys (did : String) : Set String :=
  {key | (did = "did:web:w" ∧ key = "keyW") ∨ (did = "did:web:m" ∧ key = "keyM")}

def labelCrypto : Crypto where
  canonicalize _ := some ""
  sha256Hex := id
  verifySignatureB64 key _ signature := key == signature

/-- Only `did:web:w` is trusted. -/
def trustW : QuorumPolicy := ⟨true, ["did:web:w"], 1, some 300, 120⟩

theorem publishedKeys_twoDocuments (keyId : String) (resolved : ResolvedWitnessKey)
    (hr : twoDocuments.resolveWitnessKey keyId = .ok resolved) :
    resolved.publicKeyB64 ∈ publishedKeys (stripFragment keyId) := by
  unfold twoDocuments at hr
  dsimp only at hr
  split at hr
  · next hw =>
    cases hr
    exact Or.inl ⟨hw, rfl⟩
  · split at hr
    · next hm =>
      cases hr
      exact Or.inr ⟨hm, rfl⟩
    · cases hr

/-- A cosignature of `did:web:w`. -/
def honestArray : List Json := [cosignatureJson "did:web:w" "did:web:w#k" "keyW"]

/-- A cosignature that names `did:web:w` with a key id of `did:web:m`. -/
def foreignElement : Json := cosignatureJson "did:web:w" "did:web:m#k" "keyM"

section Authenticity

variable {env : QuorumEnv} {policy : QuorumPolicy} {checkpoint : LogCheckpoint} {sigs : List Json}

/-- The key of the first cosignature that names `W` and whose key id resolves. -/
def firstResolved (env : QuorumEnv) (sigs : List Json) (W : String) :
    Option ResolvedWitnessKey :=
  ((cosignaturesOf env sigs).filter (·.witnessId = W)).findSome? fun cosig =>
    (env.resolveWitnessKey cosig.signature.keyId).toOption

theorem not_didKey_of_didWeb {W : String} (hw : startsWith W "did:web:" = true) :
    startsWith W "did:key:" = false := by
  unfold startsWith at *
  by_contra hk
  rw [Bool.not_eq_false, isPrefixOf_iff_prefix] at hk
  rw [List.isPrefixOf_iff_prefix] at hw
  have hp := prefix_of_prefix_length_le hk hw (by decide)
  revert hp
  decide

theorem witnessKeyOf_of_didWeb {cosig : LogCosignature}
    (hw : startsWith cosig.witnessId "did:web:" = true) :
    witnessKeyOf env cosig = (env.resolveWitnessKey cosig.signature.keyId).toOption := by
  rw [witnessKeyOf, not_didKey_of_didWeb hw]
  cases env.resolveWitnessKey cosig.signature.keyId <;> rfl

theorem keyFor_of_didWeb {W : String} (hw : startsWith W "did:web:" = true)
    (ht : W ∈ policy.trusted) :
    keyFor env policy.trusted (cosignaturesOf env sigs) W = firstResolved env sigs W := by
  rw [keyFor, if_pos ht, firstResolved]
  induction cosignaturesOf env sigs with
  | nil => rfl
  | cons cosig cosigs ih =>
    by_cases hn : cosig.witnessId = W
    · subst hn
      simp only [filter_cons, decide_true, if_true, findSome?_cons, ih,
        witnessKeyOf_of_didWeb hw]
    · simp only [filter_cons, hn, decide_false, Bool.false_eq_true, if_false, ih]

/-- **When every counted witness has a cosignature under a key of its own document**, whatever the
signatures are: exactly when, for every trusted witness with an eligible cosignature, the first
cosignature that names it and resolves yields a key of its own document. -/
theorem quorum_authentic_iff (published : String → Set String)
    (hweb : ∀ W ∈ policy.trusted, startsWith W "did:web:" = true) :
    (∀ crypto W,
      W ∈ (countedWitnesses env crypto policy checkpoint sigs).1 ∨
        W ∈ (countedWitnesses env crypto policy checkpoint sigs).2 →
      ∃ cosig ∈ cosignaturesOf env sigs, cosig.witnessId = W ∧
        ∃ key ∈ published W, cosig.SignedBy crypto key) ↔
      (policy.enabled = true → Readable env sigs → ∀ W ∈ policy.trusted,
        (∃ cosig ∈ cosignaturesOf env sigs, cosig.witnessId = W ∧
          Eligible env policy checkpoint cosig) →
        ∀ resolved, firstResolved env sigs W = some resolved →
          resolved.publicKeyB64 ∈ published W) := by
  constructor
  · rintro ha hen hr W ht ⟨cosig, hc, hn, hel⟩ resolved hf
    -- let the cosignatures of `W` verify under the resolved key and nothing else verify
    obtain ⟨key, hi⟩ := resolved
    have hct : Counted env (singleKeyCrypto W key) policy checkpoint sigs hi W :=
      ⟨key, (keyFor_of_didWeb (hweb W ht) ht).trans hf, cosig, hc, hn,
        hel, signedBy_singleKeyCrypto.mpr ⟨hn, rfl⟩⟩
    have hm := (mem_countedWitnesses (singleKeyCrypto W key) checkpoint hen hr).2 W
    have hW : W ∈ (countedWitnesses env (singleKeyCrypto W key) policy checkpoint sigs).1 ∨
        W ∈ (countedWitnesses env (singleKeyCrypto W key) policy checkpoint sigs).2 := by
      cases hi with
      | false => exact Or.inl (hm.1.mpr hct)
      | true => exact Or.inr (hm.2.mpr hct)
    obtain ⟨_, _, _, own, how, hs⟩ := ha _ W hW
    rw [signedBy_singleKeyCrypto] at hs
    rwa [← hs.2]
  · intro how crypto W hW
    by_cases ho : policy.enabled = true ∧ Readable env sigs
    · have hm := (mem_countedWitnesses crypto checkpoint ho.1 ho.2).2 W
      obtain ⟨hi, key, hk, cosig, hc, hn, hel, hs⟩ :
          ∃ hi, Counted env crypto policy checkpoint sigs hi W := by
        rcases hW with hW | hW
        · exact ⟨false, hm.1.mp hW⟩
        · exact ⟨true, hm.2.mp hW⟩
      have ht := mem_trusted_of_keyFor hk
      rw [keyFor_of_didWeb (hweb W ht) ht] at hk
      have hp := how ho.1 ho.2 W ht ⟨cosig, hc, hn, hel⟩ _ hk
      exact ⟨cosig, hc, hn, key, hp, hs⟩
    · rw [countedWitnesses_eq_nil ho] at hW
      simp at hW

theorem quorum_authentic_iff_honestArray :
    "did:web:w" ∈ (countedWitnesses twoDocuments labelCrypto trustW sampleCheckpoint
        honestArray).1 ∧
      ∃ cosig ∈ cosignaturesOf twoDocuments honestArray, cosig.witnessId = "did:web:w" ∧
        ∃ key ∈ publishedKeys "did:web:w", cosig.SignedBy labelCrypto key := by
  have hc : "did:web:w" ∈ (countedWitnesses twoDocuments labelCrypto trustW sampleCheckpoint
      honestArray).1 := by decide
  have hf : firstResolved twoDocuments honestArray "did:web:w" = some ⟨"keyW", false⟩ := by
    decide
  refine ⟨hc, (quorum_authentic_iff publishedKeys ?_).mpr ?_ labelCrypto _ (Or.inl hc)⟩
  · intro W hW
    obtain rfl := mem_singleton.mp hW
    decide
  · intro _ _ W hW _ resolved hr
    obtain rfl := mem_singleton.mp hW
    obtain rfl := Option.some.inj (hf.symm.trans hr)
    exact Or.inl ⟨rfl, rfl⟩

/-- **A witness counted under the key of another**: the first cosignature names `did:web:w` with a
key id of `did:web:m`, the second has a key id of `did:web:w` and a signature by `did:web:m`. -/
theorem quorum_counts_foreign_key :
    (∀ keyId resolved, twoDocuments.resolveWitnessKey keyId = .ok resolved →
        resolved.publicKeyB64 ∈ publishedKeys (stripFragment keyId)) ∧
      (consumeQuorumSafe twoDocuments labelCrypto trustW sampleCheckpoint
        [foreignElement, cosignatureJson "did:web:w" "did:web:w#k" "keyM"]).witnessedCount =
          some 1 ∧
      "did:web:w" ∈ (countedWitnesses twoDocuments labelCrypto trustW sampleCheckpoint
        [foreignElement, cosignatureJson "did:web:w" "did:web:w#k" "keyM"]).1 ∧
      ¬∃ cosig ∈ cosignaturesOf twoDocuments
          [foreignElement, cosignatureJson "did:web:w" "did:web:w#k" "keyM"],
        cosig.witnessId = "did:web:w" ∧
          ∃ key ∈ publishedKeys "did:web:w", cosig.SignedBy labelCrypto key := by
  refine ⟨publishedKeys_twoDocuments, by decide, by decide, ?_⟩
  rintro ⟨cosig, hc, -, key, hk, ha, -, hvf⟩
  have hv : ∀ cosig ∈ cosignaturesOf twoDocuments
      [foreignElement, cosignatureJson "did:web:w" "did:web:w#k" "keyM"],
      cosig.signature.value = "keyM" := by decide
  rcases hk with ⟨-, rfl⟩ | ⟨hd, -⟩
  · rw [hv cosig hc] at hvf
    have hl : ("keyW" == "keyM") = true := hvf
    revert hl
    decide
  · revert hd
    decide

variable {A B : List Json}

theorem cosignaturesOf_subset (hAB : A.Sublist B) :
    cosignaturesOf env A ⊆ cosignaturesOf env B := (hAB.filterMap _).subset

/-- **When further elements cannot lower the count**, whatever the signatures are: exactly when
every witness that `A` lets count keeps its key in `B`, and no element of `B` makes the parser
throw. A missing count is zero. -/
theorem quorum_monotone_iff (hAB : A.Sublist B) :
    (∀ crypto, (consumeQuorumSafe env crypto policy checkpoint A).witnessedCount.getD 0 ≤
        (consumeQuorumSafe env crypto policy checkpoint B).witnessedCount.getD 0) ↔
      (policy.enabled = true → Readable env A → ∀ W key,
        keyFor env policy.trusted (cosignaturesOf env A) W = some ⟨key, false⟩ →
        (∃ cosig ∈ cosignaturesOf env A, cosig.witnessId = W ∧
          Eligible env policy checkpoint cosig) →
        Readable env B ∧
          keyFor env policy.trusted (cosignaturesOf env B) W = some ⟨key, false⟩) := by
  simp only [(consumeQuorumSafe_counts _ _ _ _ _).1]
  constructor
  · rintro hm hen hre W key hk ⟨cosig, hc, hn, hel⟩
    by_contra hl
    -- only the cosignatures of `W` verify, and only under the key it has in `A`
    have hA : W ∈ (countedWitnesses env (singleKeyCrypto W key) policy checkpoint A).1 :=
      ((mem_countedWitnesses _ _ hen hre).2 W).1.mpr
        ⟨key, hk, cosig, hc, hn, hel, signedBy_singleKeyCrypto.mpr ⟨hn, rfl⟩⟩
    have hB : (countedWitnesses env (singleKeyCrypto W key) policy checkpoint B).1 = [] := by
      by_cases hr : Readable env B
      · rw [eq_nil_iff_forall_not_mem]
        intro V hV
        obtain ⟨key', hk', c, -, rfl, -, hs⟩ :=
          ((mem_countedWitnesses _ _ hen hr).2 V).1.mp hV
        rw [signedBy_singleKeyCrypto] at hs
        obtain ⟨rfl, rfl⟩ := hs
        exact hl ⟨hr, hk'⟩
      · rw [countedWitnesses_eq_nil fun ho => hr ho.2]
    have hle := hm (singleKeyCrypto W key)
    rw [hB, length_nil, Nat.le_zero, length_eq_zero_iff] at hle
    rw [hle] at hA
    cases hA
  · intro hke crypto
    by_cases ho : policy.enabled = true ∧ Readable env A
    · refine ((mem_countedWitnesses _ _ ho.1 ho.2).1.subperm fun W hW => ?_).length_le
      obtain ⟨key, hk, cosig, hc, hn, hel, hs⟩ :=
        ((mem_countedWitnesses _ _ ho.1 ho.2).2 W).1.mp hW
      obtain ⟨hr, hkeyB⟩ := hke ho.1 ho.2 W key hk ⟨cosig, hc, hn, hel⟩
      exact ((mem_countedWitnesses _ _ ho.1 hr).2 W).1.mpr
        ⟨key, hkeyB, cosig, cosignaturesOf_subset hAB hc, hn, hel, hs⟩
    · rw [countedWitnesses_eq_nil ho]
      exact Nat.zero_le _

theorem quorum_monotone_iff_honestArray :
    (consumeQuorumSafe twoDocuments labelCrypto trustW sampleCheckpoint
        honestArray).witnessedCount = some 1 ∧
      (consumeQuorumSafe twoDocuments labelCrypto trustW sampleCheckpoint
          honestArray).witnessedCount.getD 0 ≤
        (consumeQuorumSafe twoDocuments labelCrypto trustW sampleCheckpoint
          (.null :: honestArray)).witnessedCount.getD 0 := by
  refine ⟨by decide, (quorum_monotone_iff (sublist_cons_self _ _)).mpr ?_ labelCrypto⟩
  intro _ hre W key hk _
  constructor
  · intro raw hr
    rcases mem_cons.mp hr with rfl | hr
    · exact ⟨_, rfl⟩
    · exact hre raw hr
  · exact hk

/-- **A witness suppressed by an element put before its cosignature**: the element resolves to the
key of `did:web:m`, under which the cosignature of `did:web:w` does not verify. -/
theorem quorum_suppressed_by_foreign_element :
    honestArray.Sublist (foreignElement :: honestArray) ∧
      (consumeQuorumSafe twoDocuments labelCrypto trustW sampleCheckpoint
        honestArray).witnessedCount = some 1 ∧
      (consumeQuorumSafe twoDocuments labelCrypto trustW sampleCheckpoint
        (foreignElement :: honestArray)).witnessedCount = some 0 :=
  ⟨sublist_cons_self _ _, by decide, by decide⟩

end Authenticity

end AcdpControlPlane
