import AcdpControlPlane.Common.Throwing
import AcdpControlPlane.Receipt.Discovery

/-!
# The trust class of a boundary

A classification reports the trust class of the facts at its boundary, and the stronger one if there are
both. It is computed from the facts that the audit or the pass has read. A row at its boundary is not eligible
for another amendment, so a fact with the same time that is recorded later is not looked at: where both
classes state the same time, the one that is reported depends on what came first.
-/

namespace AcdpControlPlane

/-- The classification of a row is that under some of the facts that apply. -/
def FromFacts (cfg : ReceiptConfig) (otherDates : String → Option Int) (facts : FactTable)
    (ev : ReceiptEvent) (fingerprint : String) (r : Revoked Int) : Prop :=
  ∃ used ⊆ applicableFacts cfg facts ev.toPublishEvent fingerprint, ∃ t, r.boundary = 1000 * t ∧
    (∃ fact ∈ used, fact.since otherDates = some t) ∧ TrustClassAt otherDates used t r.trustClass

section Runs

variable {sdk : ReceiptSdk} {cfg : ReceiptConfig} {pg : Timestamptz} {env : ReceiptEnv}
  {ev : ReceiptEvent} {base : BaseVerdict} {fingerprint : String} {facts facts' : FactTable}
  {row : ReceiptAudit} {r : Revoked Int} {history : List ReauditAction} {action : ReauditAction}
  {s s' : ReauditSystem}

theorem Classified.fromFacts {revoked : Revoked String} {used : List KeyRevocation}
    {createdAt : Option String} {least : Int} (hpg : pg.KeepsMillis env.otherDates)
    (h : Classified env.otherDates used createdAt revoked least) (hs : revoked.store pg = .ok r)
    (hu : used ⊆ applicableFacts cfg facts ev.toPublishEvent fingerprint) :
    FromFacts cfg env.otherDates facts ev fingerprint r := by
  obtain ⟨boundary, hr, rfl⟩ := Throwing.map_eq_ok.mp hs
  rw [h.boundary] at hr
  exact ⟨used, hu, least, hpg.kept least _ h.isLeast.inRange hr, h.isLeast.attained, h.trustClass⟩

variable (h : ClaimsSigner sdk env ev base fingerprint)
  (hclassifies : ∀ classify ∈ sdk.classifyUnderRevocation, Classifies classify)
  (hpg : pg.KeepsMillis env.otherDates)
include h hclassifies hpg

theorem ClaimsSigner.fromFacts {table : FactTable} {now : Int} (hs : table.rows ⊆ facts.rows)
    (hstr : (toReceiptRow ev (auditReceiptEvent sdk { env with facts := .ok table } cfg ev)).store
      pg now = .ok row) (hr : r ∈ row.keyRevocation) :
    FromFacts cfg env.otherDates facts ev fingerprint r := by
  obtain ⟨-, -, hrv, -⟩ := NewReceiptAudit.store_eq_ok hstr
  rw [hr] at hrv
  obtain ⟨revoked, hv, hst⟩ := exists_of_mapM_eq_some hrv
  obtain ⟨base', fp?, ha, hcl⟩ := auditReceiptEvent_classified hv
  obtain ⟨_, signer, least, ht, -, hsg, -, -, hc⟩ :=
    classified_of_withRevocationClassification hclassifies hcl hv
  cases ht
  -- the signer is the key that the event claims
  obtain ⟨producerFp, ha', hre⟩ := h.resolved
  cases ha'.symm.trans ha
  cases hsg.symm.trans (h.signer hre)
  exact hc.fromFacts hpg hst (applicableFacts_mono (FactTable.findByFingerprint_subset hs))

theorem ReauditRun.fromFacts (hru : ReauditRun sdk pg env.otherDates (· = cfg) history s)
    (hal : ∀ action ∈ history, AuditsAlike env ev action) :
    ∀ row ∈ s.db.audits.rows, row.eventId = ev.id → ev ∈ s.db.events.rows ∧
      ∀ r ∈ row.keyRevocation, FromFacts cfg env.otherDates s.db.facts ev fingerprint r := by
  induction hru with
  | initial => exact fun _ h => nomatch h
  | @step history action s s' run step ih =>
    intro row hro hi
    obtain ⟨hl, hb⟩ := List.forall_mem_cons.mp hal
    have hm := step.extends.findByFingerprint fingerprint ev.tenantId
    cases step.rowOrigin run.grounded hro with
    | kept old =>
      obtain ⟨hev, hall⟩ := ih hb row old hi
      refine ⟨step.extends.events hev, fun r hr => ?_⟩
      obtain ⟨used, hu, hre⟩ := hall r hr
      exact ⟨used, List.Subset.trans hu (applicableFacts_mono hm), hre⟩
    | recorded audit configured stored _ seen _ recorded =>
      have hevi := (NewReceiptAudit.store_eq_ok recorded).2.2.2.1
      obtain ⟨rfl, table, rfl⟩ := hl _ _ _ audit (hevi.symm.trans hi)
      cases configured
      refine ⟨step.extends.events stored, fun r hr => h.fromFacts hclassifies hpg ?_ recorded hr⟩
      exact List.Subset.trans (seen table rfl) step.extends.facts
    | @amended _ tenantId key all ev' old amendment ho configured _ hf hev hcl ha _ =>
      obtain ⟨hev', -⟩ := ih hb old ho hi
      refine ⟨step.extends.events hev', ?_⟩
      rintro r ⟨⟩
      cases configured
      obtain ⟨hevi, -, ht, hc⟩ := hcl
      cases KeyedTable.eq_of_key_eq hev hev' (hevi.trans hi)
      cases h.claimed.symm.trans hc
      cases ht
      obtain ⟨classification, least, hs, hcld⟩ := classified_of_amendmentFor hclassifies
        (fun r hr => FactTable.fingerprint_of_mem (hf hr)) ha
      refine hcld.fromFacts hpg hs fun fact hfa => ?_
      obtain ⟨hme, hap⟩ := List.mem_filter.mp hfa
      exact List.mem_filter.mpr ⟨hm (hf hme), hap⟩

end Runs

def sampleAttested : KeyRevocation :=
  { sampleLateFact with
    ctxId := "acdp://r.example/attested", publisher := "did:web:r.example", trustClass := .registry_attested }

def sampleAttestedRow : ReceiptAudit :=
  { sampleAudited with
    keyRevocation := some ⟨.pre_compromise, 1781913600000000, .registry_attested,
      [("acdp://r.example/attested", "did:web:r.example")]⟩ }

def sampleTiedDb : ReceiptDb where
  events := (KeyedTable.empty _).insert (sampleReceiptEvent "did:web:p.example" "old key")
  audits := (KeyedTable.empty _).insert sampleAttestedRow
  facts := (FactTable.empty.record sampleAttested).record sampleLateFact

end AcdpControlPlane
