import AcdpControlPlane.Receipt.Discovery

/-!
# Events that claim another key

The audit classifies the signer that it has resolved. The re-audit has no such column: it selects rows
by the key that the registry claimed for the event, and classifies them under the facts of this key.
The queries' own comment holds that a claim that is not the signer can only select too many rows, and
never misclassify one, since each is classified with its real inputs. The signer is not among these
inputs.
-/

namespace AcdpControlPlane

section Claimed

variable {sdk : ReceiptSdk} {cfg : ReceiptConfig} {pg : Timestamptz}
  {otherDates : String → Option Int} {shuffle : Shuffle} {db db' : ReceiptDb} {amended : ℕ}
  {tenantId claimed resolved : String} {ev : ReceiptEvent} {row row' : ReceiptAudit}

theorem amended_of_reauditForFingerprint
    (hp : reauditForFingerprint sdk cfg pg otherDates shuffle tenantId claimed db =
      .ok (amended, db'))
    (hev : ev ∈ db.events.rows) (hr : row ∈ db.audits.rows) (hi : row.eventId = ev.id)
    (hr' : row' ∈ db'.audits.rows) (hi' : row'.eventId = ev.id) (hw : row' ≠ row) :
    reauditsKey sdk cfg claimed = true ∧ Claims tenantId claimed row ev ∧
      ∃ amendment, amendmentFor sdk cfg pg otherDates claimed
          (db.facts.findByFingerprint claimed tenantId) (candidateOf pg row ev) = some amendment ∧
        row' = { row with keyRevocation := some amendment } := by
  have hs : ∀ other ∈ db.audits.rows, other.eventId = ev.id → other = row :=
    fun other hot ho => KeyedTable.eq_of_key_eq hot hr (ho.trans hi.symm)
  obtain ⟨-, rfl⟩ | ⟨hk, -, globalMin, candidates, -, hf, -, rfl⟩ :=
    reauditForFingerprint_cases hp
  · exact absurd (hs row' hr' hi') hw
  obtain ⟨before, hb, hcs⟩ := foldl_amendNext_row hr'
  obtain rfl | ⟨candidate, hca, amendment, hc, ha, rfl⟩ := hcs
  · exact absurd (hs row' hb hi') hw
  · cases hs before hb hi'
    -- the candidate is of this row and of this event
    obtain ⟨selected, hse, ev', hev', hcl, rfl⟩ := claims_of_found hf hca
    cases hs selected hse (hc.symm.trans hi')
    cases KeyedTable.eq_of_key_eq hev' hev (hcl.1.trans hi')
    exact ⟨hk, hcl, amendment, ha, rfl⟩

/-- The facts of two keys that apply to an event have the same least time. -/
def SameEarliest (cfg : ReceiptConfig) (otherDates : String → Option Int) (facts : FactTable)
    (ev : PublishEvent) (claimed resolved : String) : Prop :=
  (∀ r ∈ applicableFacts cfg facts ev resolved, (r.since otherDates).isSome) ∧
    ∃ least, IsLeastSince otherDates (applicableFacts cfg facts ev claimed) least ∧
      IsLeastSince otherDates (applicableFacts cfg facts ev resolved) least

theorem IsLeastSince.unique {facts : List KeyRevocation} {least least' : Int}
    (h : IsLeastSince otherDates facts least) (h' : IsLeastSince otherDates facts least') :
    least = least' := by
  obtain ⟨r, hr, hs⟩ := h.attained
  obtain ⟨r', hr', hs'⟩ := h'.attained
  exact Int.le_antisymm (h.le r' hr' _ hs') (h'.le r hr _ hs)

/-- **When a pass writes what an audit would.** Let a pass over a claimed key change the row of an
event. An audit of the event with the same facts, with the signer that it resolves and with the verdict
of the row, stores the same status and boundary if and only if the signer is a key that is not
ignored, and the facts of both keys have the same least time. -/
theorem reaudit_agrees_iff
    (hclassifies : ∀ classify ∈ sdk.classifyUnderRevocation, Classifies classify)
    (hpg : pg.KeepsMillis otherDates)
    (hpass : reauditForFingerprint sdk cfg pg otherDates shuffle tenantId claimed db =
      .ok (amended, db'))
    (hev : ev ∈ db.events.rows) (hrow : row ∈ db.audits.rows) (hid : row.eventId = ev.id)
    (hrow' : row' ∈ db'.audits.rows) (hid' : row'.eventId = ev.id) (hwritten : row' ≠ row)
    {base : BaseVerdict} (hstatus : base.status = row.status)
    (hcreated : base.receiptCreatedAt = row.receiptCreatedAt.map pg.render) :
    (∃ revoked stored written,
      withRevocationClassification sdk cfg otherDates (.ok db.facts) ev.toPublishEvent base
        (some resolved) = .ok ⟨base, some revoked⟩ ∧
      revoked.store pg = .ok stored ∧ row'.keyRevocation = some written ∧
      stored.status = written.status ∧ stored.boundary = written.boundary) ↔
    resolved ≠ "" ∧ resolved ∉ cfg.keyRevocationIgnoreFingerprints ∧
      SameEarliest cfg otherDates db.facts ev.toPublishEvent claimed resolved := by
  obtain ⟨hk, hcl, amendment, ham, rfl⟩ :=
    amended_of_reauditForFingerprint hpass hev hrow hid hrow' hid' hwritten
  obtain ⟨-, -, hte, -⟩ := hcl
  subst hte
  obtain ⟨classification, least, hs, hc⟩ := classified_of_amendmentFor hclassifies
    (fun r hr => FactTable.fingerprint_of_mem hr) ham
  have hca : verifiedCreatedAt base.status base.receiptCreatedAt =
      verifiedCreatedAt (candidateOf pg row ev).status (candidateOf pg row ev).receiptCreatedAt := by
    rw [hstatus, hcreated]
    rfl
  constructor
  · rintro ⟨revoked, stored, written, hl, hst, hw, -, hsa⟩
    cases hw
    obtain ⟨table, signer, least', ht, -, hsg, hi, -, hc'⟩ :=
      classified_of_withRevocationClassification hclassifies hl rfl
    cases ht
    obtain ⟨heq, hn⟩ := truthy_eq_some_iff.mp hsg
    cases heq
    refine ⟨hn, hi, hc'.dated, least, hc.isLeast, ?_⟩
    -- equal boundaries are of equal times
    have hre := (Revoked.store_eq_ok hs).1
    have hre' := (Revoked.store_eq_ok hst).1
    rw [hc.boundary] at hre
    rw [hc'.boundary] at hre'
    have hb := hpg.kept least _ hc.isLeast.inRange hre
    have hb' := hpg.kept least' _ hc'.isLeast.inRange hre'
    have htm : least = least' := by omega
    rw [htm]
    exact hc'.isLeast
  · rintro ⟨hn, hi, hd, least', hl', hres⟩
    cases hl'.unique hc.isLeast
    obtain ⟨hen, hsd, -⟩ := reauditsKey_iff.mp hk
    have hne : applicableFacts cfg db.facts ev.toPublishEvent resolved ≠ [] := by
      obtain ⟨r, hr, -⟩ := hres.attained
      exact List.ne_nil_of_mem hr
    obtain ⟨revoked, least', hl, hc'⟩ := withRevocationClassification_of_applies
      hclassifies (truthy_eq_some_iff.mpr ⟨Option.some_or, hn⟩)
      (reauditsKey_iff.mpr ⟨hen, hsd, hi⟩) hne hd
      (hca ▸ hc.created)
    cases hc'.isLeast.unique hres
    -- the boundary was stored once already
    obtain ⟨hre, ha⟩ := Revoked.store_eq_ok hs
    refine ⟨revoked, { revoked with boundary := amendment.boundary }, amendment, hl, ?_, rfl, ?_,
      rfl⟩
    · unfold Revoked.store
      rw [hc'.boundary, ← hc.boundary, hre]
      rfl
    · rw [ha, hc.status, hc'.status, hca]

end Claimed

/-! ## A claim that is the signer, and one that is not -/

def sampleAmended : ReceiptAudit :=
  { sampleAudited with
    keyRevocation := some ⟨.revoked_at_or_after, 1780272000000000, .producer_signed,
      [("acdp://r.example/late", "did:web:p.example"),
        ("acdp://r.example/early", "did:web:p.example")]⟩ }

theorem sample_sameEarliest :
    SameEarliest sampleReceiptConfig (fun _ => none) sampleRevisedDb.facts
      (sampleReceiptEvent "did:web:p.example" "old key").toPublishEvent "sha256:old key"
      "sha256:old key" := by
  have hf : applicableFacts sampleReceiptConfig sampleRevisedDb.facts
      (sampleReceiptEvent "did:web:p.example" "old key").toPublishEvent "sha256:old key" =
      [sampleLateFact, sampleEarlyFact] := by decide
  have hla : sampleLateFact.since (fun _ => none) = some 1781913600000 := by decide
  have hea : sampleEarlyFact.since (fun _ => none) = some 1780272000000 := by decide
  have hl : IsLeastSince (fun _ => none) [sampleLateFact, sampleEarlyFact] 1780272000000 := by
    refine ⟨⟨sampleEarlyFact, by simp, hea⟩, ?_⟩
    intro r hr t ht
    obtain rfl | rfl := List.mem_pair.mp hr
    · cases hla.symm.trans ht
      decide
    · cases hea.symm.trans ht
      decide
  unfold SameEarliest
  refine ⟨?_, 1780272000000, hl, hl⟩
  intro r hr
  obtain rfl | rfl := List.mem_pair.mp hr
  · rfl
  · rfl

def sampleVerified : BaseVerdict := ⟨.verified, [], some "2026-06-12T00:00:00.000Z", some 1000⟩

/-- The event claims its signer, and the pass writes what an audit would. -/
theorem reaudit_agrees_iff_sample :
    ∃ amended db revoked stored written,
      reauditForFingerprint sampleRevokingSdk sampleReceiptConfig samplePg (fun _ => none)
        sampleShuffle "default" "sha256:old key" sampleRevisedDb = .ok (amended, db) ∧
      sampleAmended ∈ db.audits.rows ∧
      withRevocationClassification sampleRevokingSdk sampleReceiptConfig (fun _ => none)
        (.ok sampleRevisedDb.facts)
        (sampleReceiptEvent "did:web:p.example" "old key").toPublishEvent sampleVerified
        (some "sha256:old key") = .ok ⟨sampleVerified, some revoked⟩ ∧
      revoked.store samplePg = .ok stored ∧ sampleAmended.keyRevocation = some written ∧
      stored.status = written.status ∧ stored.boundary = written.boundary := by
  have hr : (match reauditForFingerprint sampleRevokingSdk sampleReceiptConfig samplePg
      (fun _ => none) sampleShuffle "default" "sha256:old key" sampleRevisedDb with
    | .ok (_, db) => decide (db.audits.rows = [sampleAmended])
    | .error _ => false) = true := by decide
  cases hp : reauditForFingerprint sampleRevokingSdk sampleReceiptConfig samplePg
      (fun _ => none) sampleShuffle "default" "sha256:old key" sampleRevisedDb with
  | error err =>
    rw [hp] at hr
    cases hr
  | ok result =>
    obtain ⟨amended, db⟩ := result
    rw [hp] at hr
    have hro : sampleAmended ∈ db.audits.rows := by
      rw [of_decide_eq_true hr]
      exact List.mem_singleton.mpr rfl
    have hs : sampleVerified.status = sampleAudited.status := rfl
    have hc : sampleVerified.receiptCreatedAt =
        sampleAudited.receiptCreatedAt.map samplePg.render := by
      decide
    obtain ⟨revoked, stored, written, ha⟩ := (reaudit_agrees_iff sampleRevokingSdk_classifies
      samplePg_keepsMillis hp (KeyedTable.mem_insert.mpr (Or.inr ⟨List.not_mem_nil, rfl⟩))
      (KeyedTable.mem_insert.mpr (Or.inr ⟨List.not_mem_nil, rfl⟩)) rfl hro rfl (by decide) hs
      hc).mpr ⟨by decide, by decide, sample_sameEarliest⟩
    exact ⟨amended, db, revoked, stored, written, rfl, hro, ha⟩

def sampleMisclaimed : ReceiptAudit :=
  { sampleAudited with
    status := .discrepancy
    discrepancies := ["receipt_invalid: receipt verification failed"]
    keyRevocation := none }

def sampleMisclaimedDb : ReceiptDb where
  events := (KeyedTable.empty _).insert (sampleReceiptEvent "did:web:p.example" "old key")
  audits := (KeyedTable.empty _).insert sampleMisclaimed
  facts := FactTable.empty.record sampleLateFact

/-- The audit resolves another signer than the one that the event claims, and stores its row. A pass
then marks the row as revoked, while an audit of the event with the same facts would not. -/
theorem reaudit_misclassifies :
    ∃ base amended db row written,
      auditReceipt sampleRevokingSdk (sampleReceiptEnv samplePublished "new key")
        (sampleReceiptEvent "did:web:p.example" "old key") = .ok (base, some "sha256:new key") ∧
      (toReceiptRow (sampleReceiptEvent "did:web:p.example" "old key") (auditReceiptEvent
        sampleRevokingSdk (sampleReceiptEnv samplePublished "new key") sampleReceiptConfig
        (sampleReceiptEvent "did:web:p.example" "old key"))).store samplePg 0 =
          .ok sampleMisclaimed ∧
      reauditForFingerprint sampleRevokingSdk sampleReceiptConfig samplePg (fun _ => none)
        sampleShuffle "default" "sha256:old key" sampleMisclaimedDb = .ok (amended, db) ∧
      row ∈ db.audits.rows ∧ row.eventId = "event" ∧ row.keyRevocation = some written ∧
      written.status = .revoked_time_unverifiable ∧
      withRevocationClassification sampleRevokingSdk sampleReceiptConfig (fun _ => none)
        (.ok sampleMisclaimedDb.facts)
        (sampleReceiptEvent "did:web:p.example" "old key").toPublishEvent base
        (some "sha256:new key") = .ok ⟨base, none⟩ := by
  let base : BaseVerdict := ⟨.discrepancy, ["receipt_invalid: receipt verification failed"],
    some "2026-06-12T00:00:00.000Z", some 1000⟩
  let written : Revoked Int := ⟨.revoked_time_unverifiable, 1781913600000000, .producer_signed,
    [("acdp://r.example/late", "did:web:p.example")]⟩
  have hr : (match reauditForFingerprint sampleRevokingSdk sampleReceiptConfig samplePg
      (fun _ => none) sampleShuffle "default" "sha256:old key" sampleMisclaimedDb with
    | .ok (_, db) =>
      decide (db.audits.rows = [{ sampleMisclaimed with keyRevocation := some written }])
    | .error _ => false) = true := by decide
  cases hp : reauditForFingerprint sampleRevokingSdk sampleReceiptConfig samplePg
      (fun _ => none) sampleShuffle "default" "sha256:old key" sampleMisclaimedDb with
  | error err =>
    rw [hp] at hr
    cases hr
  | ok result =>
    obtain ⟨amended, db⟩ := result
    rw [hp] at hr
    refine ⟨base, amended, db, { sampleMisclaimed with keyRevocation := some written }, written,
      by decide +kernel, by decide +kernel, rfl, ?_, rfl, rfl, rfl, by decide +kernel⟩
    rw [of_decide_eq_true hr]
    exact List.mem_singleton.mpr rfl

end AcdpControlPlane
