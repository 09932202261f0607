import AcdpControlPlane.Auth.Guard
import AcdpControlPlane.Common.TextSort

/-!
# Policy requests and their cache keys

A policy decider is asked whether a subject may perform an action on a resource
(`src/policy/policy-decider.ts`). `PolicyGuard` builds the request from what the authentication pinned
(`src/policy/policy.guard.ts`), and `CachingPolicyDecider` keeps decisions under a text that it makes of the
request (`cacheKey` of `src/policy/caching-policy.decider.ts`): nine parts with semicolons between them, of
which two are lists with commas between their members.
-/

namespace AcdpControlPlane.Policy

inductive PolicyAction where
  | contextPublish
  | contextRetrieve
  | contextList
  | capabilityDeclare
  | runStart
  | runRead
deriving DecidableEq, Repr

def PolicyAction.text : PolicyAction → String
  | .contextPublish => "context.publish"
  | .contextRetrieve => "context.retrieve"
  | .contextList => "context.list"
  | .capabilityDeclare => "capability.declare"
  | .runStart => "run.start"
  | .runRead => "run.read"

inductive Visibility where
  | isPublic
  | restricted
  | isPrivate
deriving DecidableEq, Repr

def Visibility.text : Visibility → String
  | .isPublic => "public"
  | .restricted => "restricted"
  | .isPrivate => "private"

structure PolicyRequest where
  subjectDid : String
  action : PolicyAction
  resourceId : String
  resourceVisibility : Option Visibility
  resourceAudience : Option (List String)
  scopes : List String
  issuer : Option String
  federated : Option Bool
  tenantId : Option String
deriving DecidableEq, Repr

inductive PolicyDenyCode where
  | visibility
  | audience
  | scope
  | tenantMismatch
  | unauthenticated
deriving DecidableEq, Repr

inductive PolicyDecision where
  | allow
  | deny (code : PolicyDenyCode) (reason : String)
  | indeterminate (note : Option String)
deriving DecidableEq, Repr

def membersText (members : List String) : String := String.intercalate "," (TextSort.sort members)

def keyParts (req : PolicyRequest) : List String :=
  [req.subjectDid,
    req.action.text,
    req.resourceId,
    (req.resourceVisibility.map Visibility.text).getD "",
    -- an empty audience is present, but joins to the same text as an absent one
    (req.resourceAudience.map membersText).getD "",
    membersText req.scopes,
    req.tenantId.getD "",
    req.issuer.getD "",
    if req.federated = some true then "1" else "0"]

/-- The text under which the decision of a request is kept. -/
def cacheKey (req : PolicyRequest) : String := String.intercalate ";" (keyParts req)

namespace PolicyRequest

/-- The same request, up to the order of its scopes and of its audience. -/
structure Reordered (req req' : PolicyRequest) : Prop where
  subjectDid : req.subjectDid = req'.subjectDid
  action : req.action = req'.action
  resourceId : req.resourceId = req'.resourceId
  resourceVisibility : req.resourceVisibility = req'.resourceVisibility
  resourceAudience : Option.Rel List.Perm req.resourceAudience req'.resourceAudience
  scopes : req.scopes.Perm req'.scopes
  issuer : req.issuer = req'.issuer
  federated : req.federated = req'.federated
  tenantId : req.tenantId = req'.tenantId

/-- A member of a list that can be read back from the join of the list. -/
def PlainMember (member : String) : Prop := member ≠ "" ∧ ',' ∉ member.toList ∧ ';' ∉ member.toList

/-- A request that is written into its key unambiguously: no part contains what separates it from the next,
and what the guard always sets is set. -/
structure Plain (req : PolicyRequest) : Prop where
  subjectDid : ';' ∉ req.subjectDid.toList
  resourceId : ';' ∉ req.resourceId.toList
  resourceAudience : ∀ audience ∈ req.resourceAudience,
    audience ≠ [] ∧ ∀ member ∈ audience, PlainMember member
  scopes : ∀ scope ∈ req.scopes, PlainMember scope
  tenantId : ∃ tenantId, req.tenantId = some tenantId ∧ ';' ∉ tenantId.toList
  issuer : ∃ issuer, req.issuer = some issuer ∧ ';' ∉ issuer.toList
  federated : ∃ federated, req.federated = some federated

end PolicyRequest

open PolicyRequest

variable {members : List String} {audience audience' : Option (List String)} {req : PolicyRequest}

theorem membersText_eq_of_perm {members' : List String} (h : members.Perm members') :
    membersText members = membersText members' :=
  congrArg (String.intercalate ",") (TextSort.sort_eq_sort_iff.mpr h)

theorem audience_text_eq_of_rel (h : Option.Rel List.Perm audience audience') :
    audience.map membersText = audience'.map membersText := by
  cases h with
  | some hp => exact congrArg some (membersText_eq_of_perm hp)
  | none => rfl

/-! ## Plain requests -/

theorem comma_toList : ",".toList = [','] := by decide

theorem semicolon_toList : ";".toList = [';'] := by decide

theorem PolicyAction.text_injective : Function.Injective PolicyAction.text := by
  intro action action' h
  cases action <;> cases action' <;> first | rfl | exact absurd h (by decide)

theorem PolicyAction.semicolon_notMem (action : PolicyAction) : ';' ∉ action.text.toList := by
  cases action <;> decide

theorem Visibility.semicolon_notMem (visibility : Visibility) : ';' ∉ visibility.text.toList := by
  cases visibility <;> decide

theorem visibility_text_inj {visibility visibility' : Option Visibility}
    (h : (visibility.map Visibility.text).getD "" = (visibility'.map Visibility.text).getD "") :
    visibility = visibility' := by
  rcases visibility with _ | (_ | _ | _) <;> rcases visibility' with _ | (_ | _ | _) <;>
    first | rfl | exact absurd h (by decide)

theorem semicolon_notMem_membersText (h : ∀ member ∈ members, PlainMember member) :
    ';' ∉ (membersText members).toList := by
  intro hme
  rcases Separated.mem_of_mem_join comma_toList hme with hs | ⟨member, hm, hc⟩
  · exact absurd hs (by decide)
  · exact (h member (TextSort.mem_sort.mp hm)).2.2 hc

theorem perm_of_membersText_eq {members' : List String} (h : ∀ member ∈ members, PlainMember member)
    (h' : ∀ member ∈ members', PlainMember member)
    (ht : membersText members = membersText members') : members.Perm members' := by
  apply TextSort.sort_eq_sort_iff.mp
  refine Separated.join_inj_of_ne_empty comma_toList ?_ ?_ ht
  · intro member hm
    obtain ⟨hn, hc, _⟩ := h member (TextSort.mem_sort.mp hm)
    exact ⟨hn, hc⟩
  · intro member hm
    obtain ⟨hn, hc, _⟩ := h' member (TextSort.mem_sort.mp hm)
    exact ⟨hn, hc⟩

theorem membersText_ne_empty (hne : members ≠ [])
    (h : ∀ member ∈ members, PlainMember member) : membersText members ≠ "" := by
  apply Separated.join_ne_empty
  · intro member hm
    exact (h member (TextSort.mem_sort.mp hm)).1
  · intro hn
    exact hne (List.perm_nil.mp (hn ▸ (TextSort.sort_perm members).symm))

theorem rel_of_audience_text_eq
    (h : ∀ members ∈ audience, members ≠ [] ∧ ∀ member ∈ members, PlainMember member)
    (h' : ∀ members ∈ audience', members ≠ [] ∧ ∀ member ∈ members, PlainMember member)
    (ht : (audience.map membersText).getD "" = (audience'.map membersText).getD "") :
    Option.Rel List.Perm audience audience' := by
  cases audience with
  | none =>
    cases audience' with
    | none => exact .none
    | some members' =>
      obtain ⟨hn, hp⟩ := h' members' rfl
      exact absurd ht.symm (membersText_ne_empty hn hp)
  | some members =>
    obtain ⟨hn, hp⟩ := h members rfl
    cases audience' with
    | none => exact absurd ht (membersText_ne_empty hn hp)
    | some members' => exact .some (perm_of_membersText_eq hp (h' members' rfl).2 ht)

theorem flag_inj {flag flag' : Bool}
    (h : (if some flag = some true then "1" else "0") = if some flag' = some true then "1" else "0") :
    flag = flag' := by
  cases flag <;> cases flag' <;> first | rfl | exact absurd h (by decide)

theorem PolicyRequest.Plain.semicolon_notMem (h : Plain req) :
    ∀ part ∈ keyParts req, ';' ∉ part.toList := by
  obtain ⟨tenantId, hti, ht⟩ := h.tenantId
  obtain ⟨issuer, his, hi⟩ := h.issuer
  have hv : ';' ∉ ((req.resourceVisibility.map Visibility.text).getD "").toList := by
    cases req.resourceVisibility with
    | none => exact List.not_mem_nil
    | some visibility => exact visibility.semicolon_notMem
  have ha : ';' ∉ ((req.resourceAudience.map membersText).getD "").toList := by
    cases ha : req.resourceAudience with
    | none => exact List.not_mem_nil
    | some members => exact semicolon_notMem_membersText (h.resourceAudience members ha).2
  have hf : ';' ∉ (if req.federated = some true then "1" else "0").toList := by
    split <;> decide
  intro part hp
  simp only [keyParts, List.mem_cons, List.not_mem_nil, or_false, hti, his,
    Option.getD_some] at hp
  rcases hp with rfl | rfl | rfl | rfl | rfl | rfl | rfl | rfl | rfl
  exacts [h.subjectDid, req.action.semicolon_notMem, h.resourceId, hv, ha,
    semicolon_notMem_membersText h.scopes, ht, hi, hf]

theorem reordered_of_cacheKey_eq {req' : PolicyRequest} (h : Plain req) (h' : Plain req')
    (hk : cacheKey req = cacheKey req') : Reordered req req' := by
  have hp : keyParts req = keyParts req' :=
    Separated.join_inj semicolon_toList h.semicolon_notMem h'.semicolon_notMem
      (List.cons_ne_nil _ _) (List.cons_ne_nil _ _) hk
  obtain ⟨tenantId, ht, _⟩ := h.tenantId
  obtain ⟨tenantId', ht', _⟩ := h'.tenantId
  obtain ⟨issuer, his, _⟩ := h.issuer
  obtain ⟨issuer', hi', _⟩ := h'.issuer
  obtain ⟨federated, hf⟩ := h.federated
  obtain ⟨federated', hf'⟩ := h'.federated
  simp only [keyParts, ht, ht', his, hi', hf, hf',
    Option.getD_some, List.cons.injEq, and_true] at hp
  obtain ⟨hsu, ha, hr, hv, hau, hs, hte, hi, hfl⟩ := hp
  exact
    { subjectDid := hsu
      action := PolicyAction.text_injective ha
      resourceId := hr
      resourceVisibility := visibility_text_inj hv
      resourceAudience := rel_of_audience_text_eq h.resourceAudience h'.resourceAudience hau
      scopes := perm_of_membersText_eq h.scopes h'.scopes hs
      issuer := by rw [his, hi', hi]
      federated := by rw [hf, hf', flag_inj hfl]
      tenantId := by rw [ht, ht', hte] }

/-! ## The requests of the guard -/

/-- A path parameter: a text, the segments of a wildcard, or anything else. -/
inductive RouteParam where
  | text (value : String)
  | segments (values : List String)
  | other
deriving DecidableEq, Repr

/-- The path parameters that name a resource. -/
structure RouteParams where
  ctxId : Option RouteParam
  runId : Option RouteParam
  did : Option RouteParam
deriving DecidableEq, Repr

def extractResourceId (params : Option RouteParams) : String :=
  let candidate := params.bind fun p => (p.ctxId.or p.runId).or p.did
  match candidate with
  | some (.segments values) => String.intercalate "/" values
  | some (.text value) => value
  | some .other => ""
  | none => ""

namespace PolicyGuard

/-- The subject of a request: the DID of its token, or else the identity of its API key. -/
def subject (actor : Option Actor) : String :=
  match truthy (actor.bind (·.actorDid)) with
  | some did => did
  | none => (actor.bind (·.actorId)).getD ""

/-- The request that the guard builds. On a public route no actor is pinned. -/
def policyRequest (action : PolicyAction) (actor : Option Actor) (params : Option RouteParams) :
    PolicyRequest where
  subjectDid := subject actor
  action := action
  resourceId := extractResourceId params
  resourceVisibility := none
  resourceAudience := none
  scopes := (actor.map (·.actorScopes)).getD []
  issuer := some ((actor.bind (·.actorIssuer)).getD "")
  federated := some (actor.any (·.actorFederated))
  tenantId := some ((actor.map (·.tenantId)).getD DEFAULT_TENANT_ID)

end PolicyGuard

open PolicyGuard

theorem plain_policyRequest_iff {action : PolicyAction} {actor : Option Actor}
    {params : Option RouteParams} :
    Plain (policyRequest action actor params) ↔
      ';' ∉ (subject actor).toList ∧ ';' ∉ (extractResourceId params).toList ∧
      (∀ a ∈ actor, (∀ scope ∈ a.actorScopes, PlainMember scope) ∧ ';' ∉ a.tenantId.toList ∧
        ∀ issuer ∈ a.actorIssuer, ';' ∉ issuer.toList) := by
  constructor
  · intro h
    refine ⟨h.subjectDid, h.resourceId, ?_⟩
    rintro a rfl
    obtain ⟨_, ⟨⟩, ht⟩ := h.tenantId
    obtain ⟨_, ⟨⟩, hi⟩ := h.issuer
    refine ⟨h.scopes, ht, ?_⟩
    intro issuer hm
    simpa [show a.actorIssuer = some issuer from hm] using hi
  · rintro ⟨hs, hr, ha⟩
    refine ⟨hs, hr, nofun, ?_, ⟨_, rfl, ?_⟩, ⟨_, rfl, ?_⟩, ⟨_, rfl⟩⟩
    · cases actor with
      | none => exact fun _ h => absurd h List.not_mem_nil
      | some a => exact (ha a rfl).1
    · cases actor with
      | none => decide
      | some a => exact (ha a rfl).2.1
    · cases actor with
      | none => exact List.not_mem_nil
      | some a =>
        cases hi : a.actorIssuer with
        | none => simp [hi]
        | some issuer => simpa [hi] using (ha a rfl).2.2 issuer hi

end AcdpControlPlane.Policy
