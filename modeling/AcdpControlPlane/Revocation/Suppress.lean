import AcdpControlPlane.Revocation.Facts
import AcdpControlPlane.Revocation.LineageFold

/-!
# Suppressing a revocation

The facts of events and of lineage members share one key, the tenant and the context id, and the
first fact under a key stays. An event with a fact under its key is not audited. A member is recorded
under the context id that it claims, which nobody signed, so a registry that serves a revocation of
its own under the context id of another takes the place of that other one for good.
-/

namespace AcdpControlPlane

open Relation (ReflTransGen)

/-! ## What a walk returns -/

def ServesMember (sdk : RevocationSdk) (out : Outside) (params : LineageWalkParams)
    (ctxId : String) (revocation : ParsedRevocation) : Prop :=
  ∃ resp raw item body contextType verifiedBody,
    out.get (trimSlash params.baseUrl ++ "/lineages/" ++ encodeURIComponent params.lineageId) =
        .ok resp ∧
      resp.isSuccess = true ∧ resp.json = .ok (.arr raw) ∧ item ∈ raw ∧
      rawMember item = some (body, some ctxId) ∧
      foldedMember (body, some ctxId) = some (contextType, ctxId) ∧
      verifyRevocationBody sdk out params.registryAuthority params.tenantId body.stringify body =
        .ok (.verified revocation verifiedBody)

/-! ## Keys that are left alone -/

theorem ctxId_of_verified {sdk : RevocationSdk} {out : Outside} {ev : ContextEvent}
    {revocation : ParsedRevocation} {body : Json}
    (hv : verifyEvent sdk out ev = .verified revocation body) : ∃ c, ev.ctxId = some c := by
  unfold verifyEvent verifyEventInner at hv
  cases hc : ev.ctxId with
  | none =>
    rw [hc] at hv
    cases hv
  | some c => exact ⟨c, rfl⟩

section Covered

variable (sdk : RevocationSdk) (instant : String → Int)
  (tenantId ctxId fingerprint compromisedSince : String)

/-- A key is revoked with effect from a time or earlier. -/
def RevokedSince (fingerprint' compromisedSince' : String) : Prop :=
  fingerprint' = fingerprint ∧ instant compromisedSince' ≤ instant compromisedSince

/-- Whatever verifies under a context id of a tenant in a pass, be it an event or a member of a
lineage that some registry serves, revokes the key with effect from the time or earlier. -/
structure Unoccupied (cfg : RevocationConfig) (env : RevocationEnv) (db : RevocationDb) :
    Prop where
  events : ∀ ev ∈ candidates cfg env db, ev.tenantId = tenantId → ev.ctxId = some ctxId →
    ∀ revocation body, verifyEvent sdk (env.event ev) ev = .verified revocation body →
      RevokedSince instant fingerprint compromisedSince revocation.revokedKeyFingerprint
        revocation.compromisedSince
  members : ∀ params, params.tenantId = tenantId → ∀ revocation,
    ServesMember sdk (env.walk params) params ctxId revocation →
      RevokedSince instant fingerprint compromisedSince revocation.revokedKeyFingerprint
        revocation.compromisedSince

def Covered (db : RevocationDb) : Prop :=
  ∀ fact ∈ db.facts.rows, fact.key = (tenantId, ctxId) →
    RevokedSince instant fingerprint compromisedSince fact.revokedKeyFingerprint
      fact.compromisedSince

variable {sdk instant tenantId ctxId fingerprint compromisedSince}

theorem Covered.pass {cfg : RevocationConfig} {env : RevocationEnv} {db : RevocationDb}
    (hco : Covered instant tenantId ctxId fingerprint compromisedSince db)
    (hg : Unoccupied sdk instant tenantId ctxId fingerprint compromisedSince cfg env db) :
    Covered instant tenantId ctxId fingerprint compromisedSince
      (revocationSweep sdk cfg env db).2 := by
  intro fact hf hk
  rcases (revocationSweep_records sdk cfg env db).mem hf with ho | heve | hmb
  · exact hco fact ho hk
  · obtain ⟨ev, hev, revocation, body, hv, rfl⟩ := heve
    obtain ⟨c, hc⟩ := ctxId_of_verified hv
    simp only [KeyRevocation.key, eventFact, hc, Option.getD_some, Prod.mk.injEq] at hk
    obtain ⟨ht, rfl⟩ := hk
    exact hg.events ev hev ht hc revocation body hv
  · obtain ⟨params, members, counts, hw, member, hm, rfl⟩ := hmb
    simp only [KeyRevocation.key, memberFact, Prod.mk.injEq] at hk
    obtain ⟨ht, rfl⟩ := hk
    refine hg.members params ht _ ?_
    obtain ⟨raw, ⟨resp, hge, hs, hj⟩, -, hru, -⟩ := walkRevocationLineage_eq_ok_iff.mp hw
    rw [members_eq_of_run hru] at hm
    obtain ⟨item, hi, hvd⟩ := List.mem_filterMap.mp hm
    obtain ⟨body, verifiedBody, hr, hfo, hvt⟩ := verifiedMember_eq_some hvd
    exact ⟨resp, raw, item, body, member.contextType, verifiedBody, hge, hs, hj, hi, hr,
      hfo, hvt⟩

theorem Covered.of_run {db : RevocationDb} (hr : RevocationRun sdk
      (Unoccupied sdk instant tenantId ctxId fingerprint compromisedSince) RevocationDb.empty db) :
    Covered instant tenantId ctxId fingerprint compromisedSince db := by
  induction hr with
  | refl => nofun
  | tail _ hs ih =>
    cases hs with
    | pass cfg env _ hg => exact ih.pass hg
    | events _ events => exact ih

end Covered

theorem mem_candidates_or_fact {cfg : RevocationConfig} {env : RevocationEnv} {db : RevocationDb}
    {e : ContextEvent} {c : String} (he : e ∈ db.events) (hc : e.ctxId = some c)
    (ht : e.contextType.any isRevocationContextType = true)
    (hw : lookbackSince cfg env < e.createdAt)
    (hb : (db.pending (lookbackSince cfg env)).length ≤ cfg.receiptAuditBatchSize) :
    e ∈ candidates cfg env db ∨ ∃ fact ∈ db.facts.rows, fact.key = (e.tenantId, c) := by
  by_cases hfr : ∃ fact ∈ db.facts.rows, fact.key = (e.tenantId, c)
  · exact Or.inr hfr
  · have hp : e ∈ db.pending (lookbackSince cfg env) := by
      refine List.mem_filter.mpr ⟨he, decide_eq_true ⟨ht, hw, fun htk => hfr ?_⟩⟩
      obtain ⟨fact, hfac, hs⟩ := List.any_eq_true.mp htk
      obtain ⟨hf, hfa⟩ := of_decide_eq_true hs
      rw [hc] at hf
      exact ⟨fact, hfac, Prod.ext hfa (Option.some.inj hf).symm⟩
    left
    unfold candidates RevocationDb.findCandidates
    rw [List.take_of_length_le (by rwa [List.length_insertionSort])]
    exact (List.mem_insertionSort _).mpr hp

/-- **A revocation whose key is left alone is recorded.** Along a run in which whatever verifies
under the context id of an event revokes the same key with effect from the same time or earlier, a
pass that can hold every pending event leaves a fact that does. -/
theorem revocation_not_suppressed (sdk : RevocationSdk) (instant : String → Int)
    {db : RevocationDb} {e : ContextEvent} {c : String} {revocation : ParsedRevocation}
    {body : Json} {cfg : RevocationConfig} {env : RevocationEnv}
    (hrun : RevocationRun sdk (Unoccupied sdk instant e.tenantId c
      revocation.revokedKeyFingerprint revocation.compromisedSince) RevocationDb.empty db)
    (hguard : Unoccupied sdk instant e.tenantId c revocation.revokedKeyFingerprint
      revocation.compromisedSince cfg env db)
    (hacquired : env.acquired = true)
    (hstatements : ∀ ev ∈ candidates cfg env db, StatementsSucceed sdk env ev)
    (hbatch : (db.pending (lookbackSince cfg env)).length ≤ cfg.receiptAuditBatchSize)
    (he : e ∈ db.events) (hctx : e.ctxId = some c)
    (htype : e.contextType.any isRevocationContextType = true)
    (hwindow : lookbackSince cfg env < e.createdAt)
    (hverify : verifyEvent sdk (env.event e) e = .verified revocation body) :
    ∃ fact ∈ (revocationSweep sdk cfg env db).2.facts.rows, fact.tenantId = e.tenantId ∧
      fact.revokedKeyFingerprint = revocation.revokedKeyFingerprint ∧
      instant fact.compromisedSince ≤ instant revocation.compromisedSince := by
  have hc := (Covered.of_run hrun).pass hguard
  obtain ⟨fact, hf, hk⟩ : ∃ fact ∈ (revocationSweep sdk cfg env db).2.facts.rows,
      fact.key = (e.tenantId, c) := by
    rcases mem_candidates_or_fact he hctx htype hwindow hbatch with hev | ⟨fact, hf, hk⟩
    · obtain ⟨fact, hf, hk⟩ := revocationSweep_covers hacquired hstatements hev hverify
      refine ⟨fact, hf, hk.trans ?_⟩
      simp [KeyRevocation.key, eventFact, hctx]
    · exact ⟨fact, (revocationSweep_records sdk cfg env db).subset hf, hk⟩
  exact ⟨fact, hf, congrArg Prod.fst hk, hc fact hf hk⟩

def sampleVictim : ContextEvent := sampleEvent "r.example" "c1" 2

def sampleVictimResponses : List (String × Json) := [sampleContext "r.example" "a" "c1"]

theorem sampleVictim_verified : ∃ body, verifyEvent sampleRevocationSdk
    (sampleOutside sampleVictimResponses) sampleVictim =
      .verified (sampleRevocation "a") body := by
  have hv : (verifyEvent sampleRevocationSdk (sampleOutside sampleVictimResponses)
      sampleVictim).verifiedWith (fun revocation _ => revocation = sampleRevocation "a") = true := by
    decide +kernel
  obtain ⟨_, body, ho, hr⟩ := Outcome.exists_of_verifiedWith hv
  obtain rfl := of_decide_eq_true hr
  exact ⟨body, ho⟩

theorem sampleVictim_unoccupied (instant : String → Int) :
    Unoccupied sampleRevocationSdk instant "default" "c1"
      (sampleRevocation "a").revokedKeyFingerprint (sampleRevocation "a").compromisedSince
      sampleRevocationConfig (sampleRevocationEnv sampleVictimResponses)
      (sampleRevocationDb [sampleVictim]) where
  events := by
    intro ev hev _ _ revocation body hvf
    obtain rfl := List.mem_singleton.mp hev
    obtain ⟨body', hv⟩ := sampleVictim_verified
    obtain ⟨rfl, -⟩ := Outcome.verified.inj (hv.symm.trans hvf)
    exact ⟨rfl, le_refl _⟩
  members := by
    rintro params - revocation ⟨resp, raw, item, -, -, -, hg, -, hj, -⟩
    -- the only response is a context, which is not an array
    simp only [sampleRevocationEnv, sampleOutside, sampleVictimResponses, List.lookup] at hg
    split at hg
    · next response hl =>
      cases hg
      split at hl
      · cases hl
        cases hj
      · cases hl
    · cases hg
      cases hj

theorem revocation_not_suppressed_sampleVictim :
    ∃ fact ∈ (sampleRevocationPass sampleVictimResponses
        (sampleRevocationDb [sampleVictim])).facts.rows,
      fact.tenantId = "default" ∧
        fact.revokedKeyFingerprint = (sampleRevocation "a").revokedKeyFingerprint := by
  obtain ⟨body, hv⟩ := sampleVictim_verified
  have hb : ((sampleRevocationDb [sampleVictim]).pending (lookbackSince sampleRevocationConfig
      (sampleRevocationEnv sampleVictimResponses))).length ≤
        sampleRevocationConfig.receiptAuditBatchSize := by
    decide
  unfold sampleRevocationPass
  obtain ⟨fact, hf, ht, hfp, -⟩ := revocation_not_suppressed sampleRevocationSdk
    (fun _ => 0) (e := sampleVictim) (run_sampleRevocationDb _ _ [sampleVictim])
    (sampleVictim_unoccupied _) rfl (fun ev _ => ⟨fun _ _ _ => rfl, _, rfl⟩) hb
    List.mem_cons_self rfl (by decide) (by decide) hv
  exact ⟨fact, hf, ht, hfp⟩

/-! ## A foreign lineage -/

def sampleForeign : List (String × Json) :=
  [sampleContext "m.example" "m" "x", ("https://m.example/lineages/lin%3Am",
    .arr [.obj [("body", sampleBody "m" "x")], .obj [("body", sampleBody "m" "c1")]])]

def sampleOccupied : RevocationDb :=
  { sampleRevocationPass sampleForeign (sampleRevocationDb [sampleEvent "m.example" "x" 1]) with
    events := [sampleEvent "m.example" "x" 1, sampleVictim] }

/-- **A suppressed revocation.** The victim's context verifies, and the batch could hold every pending
event; but the pass has no candidate at all, and its facts are those of the foreign registry. -/
theorem revocation_suppressed :
    RevocationRun sampleRevocationSdk (fun _ _ _ => True) RevocationDb.empty sampleOccupied ∧
      sampleVictim ∈ sampleOccupied.events ∧
      lookbackSince sampleRevocationConfig (sampleRevocationEnv sampleVictimResponses) <
        sampleVictim.createdAt ∧
      (∃ body, verifyEvent sampleRevocationSdk (sampleOutside sampleVictimResponses) sampleVictim =
        .verified (sampleRevocation "a") body) ∧
      candidates sampleRevocationConfig (sampleRevocationEnv sampleVictimResponses)
        sampleOccupied = [] ∧
      (sampleRevocationPass sampleVictimResponses sampleOccupied).facts.rows.map
          KeyRevocation.revokedKeyFingerprint =
        ["fingerprint of did:web:m#old", "fingerprint of did:web:m#old"] := by
  refine ⟨?_, List.mem_cons_of_mem _ List.mem_cons_self, by decide, sampleVictim_verified,
    by decide +kernel, by decide +kernel⟩
  unfold sampleOccupied sampleRevocationPass
  exact ((run_sampleRevocationDb _ _ _).tail (.pass sampleRevocationConfig (sampleRevocationEnv sampleForeign) _
    trivial)).tail (.events _ _)

end AcdpControlPlane
