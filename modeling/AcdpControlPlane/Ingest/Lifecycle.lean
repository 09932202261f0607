import AcdpControlPlane.Ingest.Authority

/-!
# Who may retract a context

A context `acdp://B/…` comes from the registry `B`. A retract or a republish names a context by `ctx_id`
and its sender by `registry_authority`, and both are free. The enrollment that authenticates a delivery
is chosen by its `registry_authority`; the row of the lifecycle is chosen by its `ctx_id`. Nothing
compares the two, so a registry of the tenant may retract the contexts of the others
(`retracted_by_another`). The `ctx_id` decides who the sender is only if the delivery does not say so.
-/

namespace AcdpControlPlane

section Deliveries

variable (env : ProcessorEnv) (ingest : IngestEnv) (config : IngestConfig)

/-- The tables after deliveries, each with the faults it meets. -/
def handleAll (arrivals : List (IngestArrival × (ℕ → Fault))) (tables : IngestTables) :
    IngestTables :=
  arrivals.foldl (fun tables arrival => (arrival.1.handle env arrival.2 ingest config tables).2)
    tables

structure TransitionOf (payload : Json) (ctxId : String) : Prop where
  kind : ∃ v eventType, payload.member "type" = some v ∧ v.toJsString = .ok eventType ∧
    (eventType = ACDP_EVENT_CONTEXT_RETRACTED ∨ eventType = ACDP_EVENT_CONTEXT_REPUBLISHED)
  context : ∃ v, payload.member "ctx_id" = some v ∧ env.columns.text v = ctxId

/-- A delivery was authenticated for a tenant as the registry that its payload names: by its enrollment
or, where registries without one are accepted, by the secret of the deployment. -/
def AuthenticatedAs (arrival : IngestArrival) (payload : Json) (tenantId : String) : Prop :=
  match enrollmentOf arrival.enrollments (claimedAuthority payload) with
  | some enrollment =>
    Authenticates ingest arrival.req enrollment tenantId ∧
      (truthy enrollment.webhookSecret = none → SignedUnder ingest arrival.req config.webhookSecret)
  | none =>
    config.ingestRequireEnrollment = false ∧
      SignedUnder ingest arrival.req config.webhookSecret ∧
      tenantId = unenrolledTenant config arrival.req.tenant

end Deliveries

section Origin

variable {env : ProcessorEnv} {ingest : IngestEnv} {config : IngestConfig}
  {arrival : IngestArrival} {tables : IngestTables} {tenantId ctxId : String} {payload : Json}
  {sender : Sender} {call : ProcessCall} {faults : ℕ → Fault}

def lifecycleRow (tenantId ctxId : String) (tables : IngestTables) : Option ContextLifecycle :=
  tables.contextLifecycle.find? (tenantId, ctxId)

theorem member_of_withAuthority {attributed : Json} {k : String} (hk : k ≠ "registry_authority")
    (h : withAuthority payload = .ok attributed) : attributed.member k = payload.member k := by
  rcases withAuthority_eq_ok h with ⟨-, rfl⟩ | ⟨-, authority, -, rfl⟩
  · rfl
  · exact Json.member_setMember_of_ne _ _ hk

theorem transitionOf_row
    (ha : AcceptedRequest ingest config arrival.enrollments arrival.req payload sender call)
    {event : NewContextEvent} (hr : RowOf call arrival.now event) (htr : event.isTransition = true)
    (hc : ∃ v, event.ctxId = some v ∧ env.columns.text v = ctxId) :
    TransitionOf env payload ctxId := by
  have ht := hr.eventType
  rw [member_of_withAuthority (by decide) ha.attributed] at ht
  have hm := hr.ctxId
  rw [member_of_withAuthority (by decide) ha.attributed] at hm
  constructor
  · -- the default type is not that of a transition
    unfold nullishText at ht
    cases hv : Json.nullish (payload.member "type") with
    | none =>
      rw [hv] at ht
      have hu : "unknown" = event.eventType := Except.ok.inj ht
      simp [NewContextEvent.isTransition, ← hu, ACDP_EVENT_CONTEXT_RETRACTED,
        ACDP_EVENT_CONTEXT_REPUBLISHED] at htr
    | some v =>
      rw [hv] at ht
      refine ⟨v, event.eventType, Json.eq_some_of_nullish hv, ht, ?_⟩
      simpa [NewContextEvent.isTransition] using htr
  · obtain ⟨v, hv, hte⟩ := hc
    exact ⟨v, Json.eq_some_of_nullish (hm.symm.trans hv), hte⟩

theorem claimedAuthority_of_context
    (ha : AcceptedRequest ingest config arrival.enrollments arrival.req payload sender call)
    (hc : TransitionOf env payload ctxId)
    (hf : Json.isTruthy (payload.member "registry_authority") = false) :
    claimedAuthority payload = (extractAuthorityFromCtxId (some (.str ctxId))).map .str := by
  obtain ⟨v, hm, ht⟩ := hc.context
  rcases withAuthority_eq_ok ha.attributed with ⟨htr, -⟩ | ⟨-, authority, hex, -⟩
  · rw [hf] at htr
    cases htr
  · -- only strings have an authority, and they are stored as they are
    unfold claimedAuthority
    rw [hf, hm]
    rw [hm] at hex
    cases v with
    | str s =>
      rw [env.columns.text_str] at ht
      rw [ht]
      rfl
    | _ => cases hex

theorem transition_of_changed
    (hc : lifecycleRow tenantId ctxId (arrival.handle env faults ingest config tables).2 ≠
      lifecycleRow tenantId ctxId tables) :
    ∃ payload, ingest.jsonParse (ingest.decodeUtf8 arrival.req.body) = some payload ∧
      TransitionOf env payload ctxId ∧ AuthenticatedAs ingest config arrival payload tenantId ∧
      (Json.isTruthy (payload.member "registry_authority") = false →
        claimedAuthority payload = (extractAuthorityFromCtxId (some (.str ctxId))).map .str) := by
  unfold IngestArrival.handle at hc
  cases hac : acceptRequest ingest config arrival.enrollments arrival.req with
  | error e =>
    rw [handle_of_error hac] at hc
    exact absurd rfl hc
  | ok call =>
    rw [handle_of_ok hac] at hc
    obtain ⟨payload, sender, ha⟩ := acceptRequest_eq_ok hac
    -- some event of the call is a transition of the context
    have hev : ∃ event, newContextEvent env call arrival.now = .ok event ∧
        event.isTransition = true ∧ tenantId = event.tenantId ∧
        ∃ v, event.ctxId = some v ∧ env.columns.text v = ctxId := by
      by_contra hn
      apply hc
      refine keeps_process ⟨fun _ _ => rfl, fun _ _ => rfl, fun _ _ => rfl, fun _ _ => rfl⟩
        (fun _ _ => rfl) ?_ ⟨tables, 0⟩
      intro event hev
      unfold projectLifecycle
      split
      · next v hct =>
        split
        · next htr =>
          apply keepsPart_statement
          intro t
          apply find?_writeTransition_of_ne
          rintro ⟨hte, hci⟩
          exact (fun h => hn ⟨event, hev, h⟩) ⟨htr.1, hte, v, hct, hci.symm⟩
        · exact keepsPart_pure _
      · exact keepsPart_pure _
    obtain ⟨event, hev, htr, hte, hct⟩ := hev
    have hro := rowOf_newContextEvent hev
    have ht : TransitionOf env payload ctxId :=
      transitionOf_row ha hro htr hct
    refine ⟨payload, ha.parsed, ht, ?_, ?_⟩
    · rw [hte, hro.tenant]
      have hr := ha.resolved
      have hs := ha.signed
      unfold AuthenticatedAs
      cases hf : enrollmentOf arrival.enrollments (claimedAuthority payload) with
      | some enrollment =>
        refine ⟨authenticates_of_accepted ha hf, ?_⟩
        intro hn
        rw [hf] at hr
        rw [(resolveSender_some hr).2.2, hn] at hs
        exact hs
      | none =>
        rw [hf] at hr
        obtain ⟨hre, hte, hse⟩ := resolveSender_none hr
        rw [hse] at hs
        exact ⟨hre, hs, ha.tenant.trans hte⟩
    · exact claimedAuthority_of_context ha ht

/-- In every sequence of deliveries, under any faults and any enrollments: the row of a context only
changes through a retract or a republish that names the context, and that was authenticated for the
tenant of the row as the registry that it names in `registry_authority`. This is the registry of the
context if the delivery names none. -/
theorem lifecycle_changed_by_sender (arrivals : List (IngestArrival × (ℕ → Fault)))
    (hchanged : lifecycleRow tenantId ctxId (handleAll env ingest config arrivals tables) ≠
      lifecycleRow tenantId ctxId tables) :
    ∃ arrival ∈ arrivals.map Prod.fst, ∃ payload,
      ingest.jsonParse (ingest.decodeUtf8 arrival.req.body) = some payload ∧
      TransitionOf env payload ctxId ∧ AuthenticatedAs ingest config arrival payload tenantId ∧
      (Json.isTruthy (payload.member "registry_authority") = false →
        claimedAuthority payload = (extractAuthorityFromCtxId (some (.str ctxId))).map .str) := by
  induction arrivals generalizing tables with
  | nil => exact absurd rfl hchanged
  | cons arrival arrivals ih =>
    by_cases hf : lifecycleRow tenantId ctxId
        (arrival.1.handle env arrival.2 ingest config tables).2 = lifecycleRow tenantId ctxId tables
    · rw [← hf] at hchanged
      obtain ⟨later, hl, h⟩ := ih hchanged
      exact ⟨later, List.mem_cons_of_mem _ hl, h⟩
    · exact ⟨arrival.1, List.mem_cons_self, transition_of_changed hf⟩

end Origin

/-! ## Two registries of one tenant -/

/-- A retract of a context of `acme.com`, sent by the registry that is named. -/
def retractOfAcme (authority : Json) : Json :=
  .obj [("type", .str "context_retracted"), ("ctx_id", .str "acdp://acme.com/1"),
    ("registry_authority", authority)]

def retractedWith (authority : Json) (secret : String) : IngestTables :=
  handleAll sampleProcessor (samplePlatform (retractOfAcme authority)) sampleIngestConfig
    [(⟨sampleRequest secret, tenantEnrollments, ""⟩, noFaults)] .empty

/-- `acme.com` retracts its context. The delivery names no sender. -/
theorem lifecycle_changed_by_acme :
    lifecycleRow "acme" "acdp://acme.com/1" (retractedWith .null "aa") ≠
      lifecycleRow "acme" "acdp://acme.com/1" .empty ∧
    ∃ payload, claimedAuthority payload = some (.str "acme.com") ∧
      AuthenticatedAs (samplePlatform (retractOfAcme .null)) sampleIngestConfig
        ⟨sampleRequest "aa", tenantEnrollments, ""⟩ payload "acme" := by
  have hc : lifecycleRow "acme" "acdp://acme.com/1" (retractedWith .null "aa") ≠
      lifecycleRow "acme" "acdp://acme.com/1" .empty := by decide
  refine ⟨hc, ?_⟩
  obtain ⟨arrival, har, payload, hp, -, ha, hcl⟩ :=
    lifecycle_changed_by_sender _ hc
  rw [List.mem_singleton.mp har] at ha
  cases hp
  exact ⟨_, hcl rfl, ha⟩

/-- `other.com` retracts the context of `acme.com`: the delivery is signed with its own secret, and not
with that of `acme.com`. -/
theorem retracted_by_another :
    (lifecycleRow "acme" "acdp://acme.com/1" (retractedWith (.str "other.com") "cc")).map
        ContextLifecycle.retracted = some true ∧
      lifecycleRow "acme" "acdp://acme.com/1" .empty = none ∧
      ¬ SignedUnder (samplePlatform (retractOfAcme (.str "other.com"))) (sampleRequest "cc") "aa" := by
  decide

end AcdpControlPlane
