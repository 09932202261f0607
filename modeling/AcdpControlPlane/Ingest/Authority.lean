import AcdpControlPlane.Ingest.Process

/-!
# The authority of a stored event

An event is stored under the authority of a registry. If that registry is enrolled, then the delivery
should have been authenticated by its enrollment: it is enabled, the event is in its tenant, and the
signature was made with its secret.
-/

namespace AcdpControlPlane

/-- The `registry_authority` of a payload is a string, or is not there. -/
def TextAuthority (payload : Json) : Prop :=
  Json.isTruthy (payload.member "registry_authority") = true →
    ∃ authority, payload.member "registry_authority" = some (.str authority)

/-- An enrollment is in force for an event of a tenant: it is enabled, the event belongs to its tenant,
and the request was signed with its secret, if it has one. -/
structure Authenticates (env : IngestEnv) (req : IngestRequest) (enrollment : RegistryEnrollment)
    (tenantId : String) : Prop where
  enabled : enrollment.enabled = true
  tenant : tenantId = enrollment.tenantId
  signed : ∀ secret ∈ truthy enrollment.webhookSecret, SignedUnder env req secret

section Authority

variable {env : ProcessorEnv} {faults : ℕ → Fault} {ingest : IngestEnv} {config : IngestConfig}
  {enrollments : EnrollmentTable} {req : IngestRequest} {now : String} {tables : IngestTables}
  {payload : Json} {sender : Sender} {call : ProcessCall} {row : NewContextEvent}
  {enrollment : RegistryEnrollment}

theorem exists_obj_of_checkFields (h : checkFields config payload = .ok ()) :
    ∃ o, payload = .obj o := by
  obtain ⟨_, ht, -⟩ := Throwing.bind_eq_ok.mp h
  have htr := Throwing.require_eq_ok.mp ht
  cases payload with
  | obj o => exact ⟨o, rfl⟩
  | _ => cases htr

theorem withAuthority_eq_ok {attributed : Json} (h : withAuthority payload = .ok attributed) :
    (Json.isTruthy (payload.member "registry_authority") = true ∧ attributed = payload) ∨
    (Json.isTruthy (payload.member "registry_authority") = false ∧
      ∃ authority, extractAuthorityFromCtxId (payload.member "ctx_id") = some authority ∧
        attributed = payload.setMember "registry_authority" (.str authority)) := by
  unfold withAuthority at h
  split at h
  · next ht =>
    cases h
    exact Or.inl ⟨ht, rfl⟩
  · next hf =>
    refine Or.inr ⟨by simpa using hf, ?_⟩
    cases hex : extractAuthorityFromCtxId (payload.member "ctx_id") with
    | none =>
      rw [hex] at h
      cases h
    | some authority =>
      rw [hex] at h
      cases h
      exact ⟨authority, rfl, rfl⟩

theorem claimedAuthority_of_text (hac : AcceptedRequest ingest config enrollments req payload
    sender call) (hr : RowOf call now row) (hte : TextAuthority payload) :
    claimedAuthority payload = some (.str row.registryAuthority) := by
  unfold claimedAuthority
  have ha := hr.authority
  rcases withAuthority_eq_ok hac.attributed with
    ⟨ht, hs⟩ | ⟨hf, authority, hex, hse⟩
  · -- the payload names its authority
    obtain ⟨authority, hm⟩ := hte ht
    rw [hs, hm] at ha
    cases ha
    rw [if_pos ht, hm]
  · -- the authority is that of the context
    obtain ⟨o, rfl⟩ := exists_obj_of_checkFields hac.fields
    rw [hse, Json.member_setMember] at ha
    cases ha
    rw [hf, hex]
    rfl

theorem enrollmentOf_of_not_text (ht : ¬ TextAuthority payload) :
    enrollmentOf enrollments (claimedAuthority payload) = none := by
  have htr : Json.isTruthy (payload.member "registry_authority") = true := by
    by_contra hf
    exact ht fun h => absurd h hf
  unfold claimedAuthority
  rw [if_pos htr]
  cases hm : payload.member "registry_authority" with
  | none => rfl
  | some v =>
    cases v with
    | str authority => exact absurd (fun _ => ⟨authority, hm⟩) ht
    | _ => rfl

theorem findByAuthority_of_mem (h : enrollment ∈ enrollments.rows) :
    enrollments.findByAuthority enrollment.authority = some enrollment := by
  cases hf : enrollments.findByAuthority enrollment.authority with
  | none =>
    have := List.find?_eq_none.mp hf enrollment h
    simp at this
  | some found =>
    have hk : found.authority = enrollment.authority := by simpa using List.find?_some hf
    have hm := List.mem_of_find?_eq_some hf
    rw [List.inj_on_of_nodup_map enrollments.nodup hm h hk]

theorem authenticates_of_accepted
    (ha : AcceptedRequest ingest config enrollments req payload sender call)
    (hf : enrollmentOf enrollments (claimedAuthority payload) = some enrollment) :
    Authenticates ingest req enrollment call.tenantId := by
  have hr := ha.resolved
  rw [hf] at hr
  obtain ⟨hen, ht, hse⟩ := resolveSender_some hr
  refine ⟨hen, ha.tenant.trans ht, ?_⟩
  intro secret ho
  have hs := ha.signed
  rw [hse, Option.mem_def.mp ho] at hs
  exact hs

/-- For every delivery, whatever its body and its headers, and every event that it stores under the
authority of an enrollment: the enrollment vouches for the event if and only if the authority was given
as a text, or the enrollment happens to be enabled, in the tenant that a delivery without an enrollment
has, and without a secret other than one that the request is signed with. -/
theorem authority_authenticated_iff
    (hstored : row ∈ (IngestService.handle env faults ingest config enrollments req now
      tables).2.contextEvents.rows)
    (hnew : row ∉ tables.contextEvents.rows) (henrolled : enrollment ∈ enrollments.rows)
    (hauthority : row.registryAuthority = enrollment.authority) :
    Authenticates ingest req enrollment row.tenantId ↔
      ∃ payload, ingest.jsonParse (ingest.decodeUtf8 req.body) = some payload ∧
        (TextAuthority payload ∨
          Authenticates ingest req enrollment (unenrolledTenant config req.tenant)) := by
  obtain ⟨call, hac, hev⟩ := (mem_contextEvents_handle hstored).resolve_left hnew
  obtain ⟨payload, sender, ha⟩ := acceptRequest_eq_ok hac
  have hro := rowOf_newContextEvent hev
  rw [hro.tenant]
  constructor
  · intro hau
    refine ⟨payload, ha.parsed, ?_⟩
    by_cases ht : TextAuthority payload
    · exact Or.inl ht
    · -- there is no enrollment, so the tenant is that of the header
      have hr := ha.resolved
      rw [enrollmentOf_of_not_text ht] at hr
      rw [ha.tenant, (resolveSender_none hr).2.1] at hau
      exact Or.inr hau
  · rintro ⟨parsed, hp, hc⟩
    obtain rfl : payload = parsed := Option.some.inj (ha.parsed.symm.trans hp)
    by_cases ht : TextAuthority payload
    · apply authenticates_of_accepted ha
      rw [claimedAuthority_of_text ha hro ht, hauthority]
      exact findByAuthority_of_mem henrolled
    · have hr := ha.resolved
      rw [enrollmentOf_of_not_text ht] at hr
      rw [ha.tenant, (resolveSender_none hr).2.1]
      exact hc.resolve_left ht

end Authority

def retrievedFrom (authority : Json) : Json :=
  .obj [("type", .str "context_retrieved"), ("registry_authority", authority)]

def acmeEnrollments : EnrollmentTable := ⟨[acmeEnrollment], List.nodup_singleton _⟩

/-- The authority as a text, signed with the secret of the registry. -/
theorem authority_authenticated_text :
    ∃ row ∈ (IngestService.handle sampleProcessor noFaults
        (samplePlatform (retrievedFrom (.str "acme.com"))) sampleIngestConfig acmeEnrollments
        (sampleRequest "aa") "" .empty).2.contextEvents.rows,
      row.registryAuthority = acmeEnrollment.authority ∧
      Authenticates (samplePlatform (retrievedFrom (.str "acme.com"))) (sampleRequest "aa")
        acmeEnrollment row.tenantId := by
  have hen : acmeEnrollment ∈ acmeEnrollments.rows := List.mem_cons_self
  have hs : _ ∈ (IngestService.handle sampleProcessor noFaults
      (samplePlatform (retrievedFrom (.str "acme.com"))) sampleIngestConfig acmeEnrollments
      (sampleRequest "aa") "" .empty).2.contextEvents.rows := List.mem_cons_self
  refine ⟨_, hs, rfl, ?_⟩
  exact (authority_authenticated_iff hs List.not_mem_nil hen rfl).mpr
    ⟨_, rfl, Or.inl fun _ => ⟨"acme.com", rfl⟩⟩

/-- The authority in an array, signed with the secret of the deployment: the event is stored under
`acme.com`, in the default tenant, and was not signed with the secret of `acme.com`. -/
theorem authority_unauthenticated :
    ∃ row ∈ (IngestService.handle sampleProcessor noFaults
        (samplePlatform (retrievedFrom (.arr [.str "acme.com"]))) sampleIngestConfig acmeEnrollments
        (sampleRequest "bb") "" .empty).2.contextEvents.rows,
      row.registryAuthority = acmeEnrollment.authority ∧
      row.tenantId ≠ acmeEnrollment.tenantId ∧
      ¬ SignedUnder (samplePlatform (retrievedFrom (.arr [.str "acme.com"]))) (sampleRequest "bb")
        "aa" := by
  refine ⟨_, List.mem_cons_self, rfl, ?_, ?_⟩
  · decide
  · decide

end AcdpControlPlane
