import AcdpControlPlane.Common.JsonRoundTrip
import AcdpControlPlane.Cosign.Cosignature
import AcdpControlPlane.Log.Documents

/-!
# Minting, parsing and verifying a cosignature

The witness mints a cosignature of a checkpoint it has parsed; a consumer receives it as JSON text,
parses it with a closed schema and verifies it. The parser of checkpoints and the parser of the tuple
inside a cosignature live in two files and test each member with patterns of their own. They accept
the same values, so every cosignature of an accepted checkpoint is read back. Its hash covers every
member but the signature, so its signature value is good for no other content.
-/

namespace AcdpControlPlane

def LogCheckpoint.witnessed (checkpoint : LogCheckpoint) : WitnessedCheckpoint :=
  ⟨checkpoint.logId, checkpoint.treeSize, checkpoint.rootHash, checkpoint.timestamp⟩

def WitnessedCheckpoint.toJson (wc : WitnessedCheckpoint) : Json :=
  .obj [("log_id", .str wc.logId), ("tree_size", .num (JsNumber.ofNat wc.treeSize)),
    ("root_hash", .str wc.rootHash), ("timestamp", .str wc.timestamp)]

/-- The cosignature as it is sent: the unsigned members, and the signature. -/
def LogCosignature.toJson (cosig : LogCosignature) : Json :=
  .obj [("cosignature_version", .str COSIGNATURE_VERSION), ("witness_id", .str cosig.witnessId),
    ("witnessed_checkpoint", cosig.witnessedCheckpoint.toJson),
    ("witnessed_at", .str cosig.witnessedAt),
    ("signature", .obj [("algorithm", .str cosig.signature.algorithm),
      ("key_id", .str cosig.signature.keyId), ("value", .str cosig.signature.value)])]

/-! ## What the parsers accept -/

section Accept

variable {dateParse : String → Option Int}

theorem test_of_stringMember {o : List (String × Json)} {k s : String} {test : String → Bool}
    (hm : stringMember o k test = some s) : test s = true := by
  unfold stringMember at hm
  split at hm
  · next t _ =>
    by_cases ht : test t = true
    · rw [if_pos ht] at hm
      cases hm
      exact ht
    · rw [if_neg ht] at hm
      cases hm
  · cases hm

theorem parseCheckpoint_eq_ok {raw : Json} {checkpoint : LogCheckpoint}
    (hp : parseCheckpoint dateParse raw = .ok (.ok checkpoint)) :
    isLogId checkpoint.logId = true ∧ isWireHash checkpoint.rootHash = true ∧
      isTimestamp dateParse checkpoint.timestamp = true := by
  unfold parseCheckpoint at hp
  split at hp
  · next o =>
    dsimp only at hp
    split at hp
    · cases hp
    split at hp
    · cases hm : memberText o "checkpoint_version" <;> rw [hm] at hp <;> cases hp
    split at hp
    · cases hm : memberText o "log_id" <;> rw [hm] at hp <;> cases hp
    next logId hl =>
    split at hp
    · cases hp
    split at hp
    · cases hp
    next rootHash hr =>
    split at hp
    · cases hp
    next timestamp ht =>
    cases hs : parseSignature (Json.get o "signature") with
    | error e =>
      rw [hs] at hp
      cases hp
    | ok signature =>
      rw [hs] at hp
      cases hp
      exact ⟨test_of_stringMember hl, test_of_stringMember hr,
        test_of_stringMember ht⟩
  · cases hp

/-- An object that represents a tuple, with its members in any order. -/
structure TupleDocument (o : List (String × Json)) (wc : WitnessedCheckpoint) : Prop where
  keys : (Json.keys o).Perm ["log_id", "tree_size", "root_hash", "timestamp"]
  logId : Json.get o "log_id" = some (.str wc.logId)
  treeSize : NatMember o "tree_size" wc.treeSize
  rootHash : Json.get o "root_hash" = some (.str wc.rootHash)
  timestamp : Json.get o "timestamp" = some (.str wc.timestamp)

/-- An object that represents a cosignature, with its members in any order. -/
structure CosignatureDocument (o : List (String × Json)) (cosig : LogCosignature) : Prop where
  keys : (Json.keys o).Perm cosignatureMembers
  version : Json.get o "cosignature_version" = some (.str COSIGNATURE_VERSION)
  witnessId : Json.get o "witness_id" = some (.str cosig.witnessId)
  tuple : ∃ t, Json.get o "witnessed_checkpoint" = some (.obj t) ∧
    TupleDocument t cosig.witnessedCheckpoint
  witnessedAt : Json.get o "witnessed_at" = some (.str cosig.witnessedAt)
  signature : ∃ s, Json.get o "signature" = some (.obj s) ∧ SignatureDocument s cosig.signature

theorem validateWitnessedCheckpoint_document {t : List (String × Json)} {wc : WitnessedCheckpoint}
    (h : TupleDocument t wc) (hl : isLogId wc.logId = true)
    (hr : isWireHash wc.rootHash = true) (ht : isTimestamp dateParse wc.timestamp = true) :
    validateWitnessedCheckpoint dateParse (some (.obj t)) = .ok wc := by
  unfold validateWitnessedCheckpoint
  dsimp only
  rw [closedMismatch_eq h.keys]
  rw [if_neg (by simp), stringMember_eq h.logId hl, natMember_eq h.treeSize,
    stringMember_eq h.rootHash hr, stringMember_eq h.timestamp ht]

theorem toJson_document (cosig : LogCosignature) :
    ∃ o, cosig.toJson = .obj o ∧ CosignatureDocument o cosig := by
  refine ⟨_, rfl, List.Perm.refl _, rfl, rfl, ⟨_, rfl, ?_⟩, rfl, ⟨_, rfl, ?_⟩⟩
  · exact ⟨List.Perm.refl _, rfl, ⟨_, rfl, rfl⟩, rfl, rfl⟩
  · exact ⟨List.Perm.refl _, rfl, rfl, rfl⟩

end Accept

/-! ## Through the text and back -/

section Text

variable {number : String → JsNumber}

theorem numerals_toJson {cosig : LogCosignature}
    (hs : number (toString cosig.witnessedCheckpoint.treeSize) =
      JsNumber.ofNat cosig.witnessedCheckpoint.treeSize) : cosig.toJson.Numerals number := by
  simp [LogCosignature.toJson, WitnessedCheckpoint.toJson, Json.Numerals, Json.NumeralsMembers,
    numeral_ofNat hs]

theorem distinct_toJson (cosig : LogCosignature) : cosig.toJson.Distinct := by
  simp [LogCosignature.toJson, WitnessedCheckpoint.toJson, Json.Distinct, Json.DistinctMembers]

theorem parseJson_toJson {cosig : LogCosignature}
    (hs : number (toString cosig.witnessedCheckpoint.treeSize) =
      JsNumber.ofNat cosig.witnessedCheckpoint.treeSize) :
    parseJson number cosig.toJson.stringify = some cosig.toJson :=
  parseJson_stringify (numerals_toJson hs) (distinct_toJson cosig)

end Text

/-! ## What a signature covers -/

section Coverage

def CanonicalInjective (crypto : Crypto) : Prop :=
  ∀ W wc t W' wc' t' canonical,
    crypto.canonicalize (unsignedCosignature W wc t) = some canonical →
    crypto.canonicalize (unsignedCosignature W' wc' t') = some canonical →
    unsignedCosignature W wc t = unsignedCosignature W' wc' t'

/-- Under the key, a signature of the signer is good for the message it was made for and for no
other. -/
def BindsMessage (crypto : Crypto) (signer : WitnessSigner) (key : String) : Prop :=
  ∀ m m', crypto.verifySignatureB64 key m' (signer.signAsciiToBase64 m) = true → m' = m

theorem unsignedCosignature_inj {W W' t t' : String} {wc wc' : WitnessedCheckpoint} :
    unsignedCosignature W wc t = unsignedCosignature W' wc' t' ↔ W = W' ∧ wc = wc' ∧ t = t' := by
  obtain ⟨l, n, r, ts⟩ := wc
  obtain ⟨l', n', r', ts'⟩ := wc'
  simp only [unsignedCosignature, Json.obj.injEq, List.cons.injEq, Prod.mk.injEq, Json.str.injEq,
    Json.num.injEq, JsNumber.ofNat, JsNumber.mk.injEq, Option.some.injEq, Int.natCast_inj,
    WitnessedCheckpoint.mk.injEq, true_and, and_true]
  constructor
  · rintro ⟨hW, ⟨hl, ⟨hn, -⟩, hr, hts⟩, ht⟩
    exact ⟨hW, ⟨hl, hn, hr, hts⟩, ht⟩
  · rintro ⟨hW, ⟨hl, hn, hr, hts⟩, ht⟩
    exact ⟨hW, ⟨hl, ⟨hn, by rw [hn]⟩, hr, hts⟩, ht⟩

theorem unsigned_eq_of_hash_eq {crypto : Crypto} (hs : Function.Injective crypto.sha256Hex)
    (hj : CanonicalInjective crypto) {W t ha : String} {wc : WitnessedCheckpoint}
    (hh : cosignatureHash crypto (unsignedCosignature W wc t) = some ha)
    {cosig : LogCosignature} (hh' : cosignatureHash crypto cosig.unsigned = some ha) :
    cosig.witnessId = W ∧ cosig.witnessedCheckpoint = wc ∧ cosig.witnessedAt = t := by
  obtain ⟨canonical, hc, rfl⟩ := Option.map_eq_some_iff.mp hh
  obtain ⟨canonical', hc', heq⟩ := Option.map_eq_some_iff.mp hh'
  have hd : crypto.sha256Hex canonical' = crypto.sha256Hex canonical := by
    rwa [← String.toList_inj, String.toList_append, String.toList_append,
      List.append_cancel_left_eq, String.toList_inj] at heq
  obtain rfl := hs hd
  exact unsignedCosignature_inj.mp (hj _ _ _ _ _ _ _ hc' hc)

/-- **Mint, parse and verify fit together.** A cosignature of an accepted checkpoint is minted,
survives the text, parses to itself and verifies under the key of the signer; and another parsed
cosignature with its signature value, which differs in the witness, the time or a member of the
tuple, is rejected under every key that binds the signatures of the signer to their messages. -/
theorem tsMintCosignature_roundTrip {number : String → JsNumber} {dateParse : String → Option Int}
    {crypto : Crypto} {raw : Json} {checkpoint : LogCheckpoint} {signer : WitnessSigner}
    {witnessedAt publicKey canonical : String}
    (hcheckpoint : parseCheckpoint dateParse raw = .ok (.ok checkpoint))
    (hdid : isWitnessDid signer.witnessId = true)
    (hkeyId : stripFragment signer.keyId = signer.witnessId)
    (hat : isTimestamp dateParse witnessedAt = true)
    (hsize : number (toString checkpoint.treeSize) = JsNumber.ofNat checkpoint.treeSize)
    (hcanonical : crypto.canonicalize
      (unsignedCosignature signer.witnessId checkpoint.witnessed witnessedAt) = some canonical)
    (hsign : ∀ m, crypto.verifySignatureB64 publicKey m (signer.signAsciiToBase64 m) = true)
    (hsha : Function.Injective crypto.sha256Hex) (hjcs : CanonicalInjective crypto) :
    ∃ cosig hash, tsMintCosignature crypto checkpoint.witnessed witnessedAt signer =
        .ok (cosig, hash) ∧
      (∃ json, parseJson number cosig.toJson.stringify = some json ∧
        parseCosignature dateParse json = .ok (.ok cosig)) ∧
      tsVerifyCosignature crypto cosig publicKey = .ok () ∧
      ∀ key, BindsMessage crypto signer key →
        ∀ raw' cosig', parseCosignature dateParse raw' = .ok (.ok cosig') →
          cosig'.signature.value = cosig.signature.value →
          (cosig'.witnessId ≠ cosig.witnessId ∨ cosig'.witnessedAt ≠ cosig.witnessedAt ∨
            cosig'.witnessedCheckpoint ≠ cosig.witnessedCheckpoint) →
          ∃ e, tsVerifyCosignature crypto cosig' key = .error e := by
  obtain ⟨hl, hr, hti⟩ := parseCheckpoint_eq_ok hcheckpoint
  have hh : cosignatureHash crypto
      (unsignedCosignature signer.witnessId checkpoint.witnessed witnessedAt) =
        some ("sha256:" ++ crypto.sha256Hex canonical) := by
    rw [cosignatureHash, hcanonical, Option.map_some]
  refine ⟨_, _, by rw [tsMintCosignature, hh], ?_, ?_, ?_⟩
  · refine ⟨_, parseJson_toJson hsize, ?_⟩
    obtain ⟨o, ho, hd⟩ := toJson_document _
    rw [ho]
    obtain ⟨t, ht, htu⟩ := hd.tuple
    obtain ⟨s, hs, hsi⟩ := hd.signature
    have hve : Json.strOf (Json.get o "cosignature_version") = some COSIGNATURE_VERSION := by
      rw [hd.version]
      rfl
    unfold parseCosignature
    dsimp only
    rw [closedMismatch_eq hd.keys]
    rw [if_neg (by simp), if_neg (not_not.mpr hve), stringMember_eq hd.witnessId hdid, ht,
      validateWitnessedCheckpoint_document htu hl hr hti,
      stringMember_eq hd.witnessedAt hat, hs, parseSignature_document hsi]
    rfl
  · exact tsVerifyCosignature_eq_ok.mpr ⟨rfl, hkeyId, _, hh, hsign _⟩
  · intro key hb raw' cosig' _ hv hdi
    -- an accepted cosignature would have the hash that was signed, hence the same members
    cases hvf : tsVerifyCosignature crypto cosig' key with
    | error e => exact ⟨e, rfl⟩
    | ok u =>
      obtain ⟨-, -, hash', hh', hsi⟩ := tsVerifyCosignature_eq_ok.mp hvf
      rw [hv] at hsi
      obtain rfl := hb _ _ hsi
      obtain ⟨hW, hw, ht⟩ := unsigned_eq_of_hash_eq hsha hjcs hh hh'
      rcases hdi with hn | hn | hn
      · exact absurd hW hn
      · exact absurd ht hn
      · exact absurd hw hn

end Coverage

/-! ## A signer whose signatures are the messages -/

/-- Texts are their own canonical forms, digests and signatures. -/
def plainCrypto : Crypto where
  canonicalize v := some v.stringify
  sha256Hex := id
  verifySignatureB64 _ message signature := message == signature

def plainSigner : WitnessSigner where
  witnessId := "did:web:w"
  keyId := "did:web:w#k"
  seedHex := none
  signAsciiToBase64 := id

def plainCheckpoint : Json :=
  .obj [("checkpoint_version", .str "acdp-log/1"), ("log_id", .str "did:web:r/log/1"),
    ("tree_size", .num 7), ("root_hash", .str (Digest.replicate 0).toWire),
    ("timestamp", .str "2024-01-01T00:00:00.000Z"),
    ("signature", .obj [("algorithm", .str "ed25519"), ("key_id", .str "did:web:r#k"),
      ("value", .str "")])]

theorem numerals_unsignedCosignature (W t : String) (wc : WitnessedCheckpoint) :
    (unsignedCosignature W wc t).Numerals readDecimal := by
  simp [unsignedCosignature, Json.Numerals, Json.NumeralsMembers,
    numeral_ofNat (readDecimal_toString wc.treeSize)]

theorem canonicalInjective_plainCrypto : CanonicalInjective plainCrypto := by
  intro W wc t W' wc' t' canonical hc hc'
  refine eq_of_stringify_eq (numerals_unsignedCosignature W t wc)
    (numerals_unsignedCosignature W' t' wc') ?_
  exact Option.some.inj (hc.trans hc'.symm)

theorem tsMintCosignature_roundTrip_plain :
    ∃ checkpoint, parseCheckpoint (fun _ => some 0) plainCheckpoint = .ok (.ok checkpoint) ∧
      ∃ cosig hash, tsMintCosignature plainCrypto checkpoint.witnessed "2024-01-01T00:00:00.000Z"
          plainSigner = .ok (cosig, hash) ∧
        (∃ json, parseJson readDecimal cosig.toJson.stringify = some json ∧
          parseCosignature (fun _ => some 0) json = .ok (.ok cosig)) ∧
        tsVerifyCosignature plainCrypto cosig "key" = .ok () ∧
        ∀ key, BindsMessage plainCrypto plainSigner key →
          ∀ raw' cosig', parseCosignature (fun _ => some 0) raw' = .ok (.ok cosig') →
            cosig'.signature.value = cosig.signature.value →
            (cosig'.witnessId ≠ cosig.witnessId ∨ cosig'.witnessedAt ≠ cosig.witnessedAt ∨
              cosig'.witnessedCheckpoint ≠ cosig.witnessedCheckpoint) →
            ∃ e, tsVerifyCosignature plainCrypto cosig' key = .error e := by
  have hc : parseCheckpoint (fun _ => some 0) plainCheckpoint =
      .ok (.ok ⟨"did:web:r/log/1", 7, (Digest.replicate 0).toWire, "2024-01-01T00:00:00.000Z",
        ⟨"ed25519", "did:web:r#k", ""⟩⟩) := by decide
  refine ⟨_, hc, tsMintCosignature_roundTrip hc (by decide) (by decide)
    (by decide) (readDecimal_toString _) rfl (fun m => ?_) (fun _ _ h => h)
    canonicalInjective_plainCrypto⟩
  exact beq_self_eq_true m

end AcdpControlPlane
