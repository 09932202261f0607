import AcdpControlPlane.Common.Federation
import AcdpControlPlane.Common.HttpError
import AcdpControlPlane.Common.JsonRoundTrip
import AcdpControlPlane.Receipt.Verify

/-!
# The federation proxy

`getContext` of `src/contexts/contexts.controller.ts` fetches a context from the registry that
authored it and relays the text of the answer. Before a success is relayed, `assertCtxIdBinding`
parses the text, takes its `body` member and has the binding compare the `ctx_id` in it with the
requested one. What is checked is the parsed value; what is sent on is the text. The two differ when
the text repeats a member: `JSON.parse` keeps the last one, and the text still has them all.
-/

namespace AcdpControlPlane

open Json

/-! ## The controller -/

/-- A response of the federation client, with the text of its body. -/
structure UpstreamResponse where
  status : ℕ
  contentType : Option String
  body : String
deriving DecidableEq, Repr

/-- What the client throws: a `FederationFetchError`, or another exception of the request. -/
inductive UpstreamFailure where
  | federation (code : FederationFetchCode) (message : String)
  | other (e : HttpException)

/-- What the proxy reads from outside. The registry is looked up in the tenant of the caller. -/
structure ProxyEnv where
  number : String → JsNumber
  findByAuthority : String → Except HttpException (Option String)
  get : String → Except UpstreamFailure UpstreamResponse
  verifyCtxIdBinding : String → String → Except NativeError Unit

def parseAcdpCtxId (raw : String) : Option (String × String) :=
  if isCanonicalCtxId raw then
    let rest := raw.toList.drop "acdp://".toList.length
    let authority := rest.takeWhile (· ≠ '/')
    some (String.ofList authority, String.ofList (rest.drop (authority.length + 1)))
  else none

/-- The failure kinds of `verifyCtxIdBinding`. -/
inductive CtxIdBindingFailureKind where
  | mismatch
  | unverifiable
deriving DecidableEq

def classifyCtxIdBindingFailure (message : String) : CtxIdBindingFailureKind :=
  if startsWith message "context substitution: " then .mismatch else .unverifiable

section Controller

variable (env : ProxyEnv)

/-- The body-free 502 for a binding that could not be established. -/
def bindingUnverifiable (ctxId authority : String) : HttpException :=
  appException "CONTEXT_BINDING_UNVERIFIABLE"
    ("Cannot verify that upstream registry " ++ authority ++ " served the requested context " ++
      ctxId) 502

/-- Throw unless the `ctx_id` of the served body is the requested one. -/
def assertCtxIdBinding (response : UpstreamResponse) (ctxId authority : String) :
    Except HttpException Unit :=
  match parseJson env.number response.body with
  | none => .error (bindingUnverifiable ctxId authority)
  | some payload =>
    match payload.member "body" with
    | some (.obj body) =>
      match env.verifyCtxIdBinding (Json.stringify (.obj body)) ctxId with
      | .ok () => .ok ()
      | .error e =>
        match classifyCtxIdBindingFailure e.message with
        | .mismatch =>
          .error (appException "CONTEXT_ID_MISMATCH"
            ("Upstream registry " ++ authority ++ " served a different context than requested for " ++
              ctxId) 502)
        | .unverifiable => .error (bindingUnverifiable ctxId authority)
    | _ => .error (bindingUnverifiable ctxId authority)

def UpstreamResponse.isSuccess (response : UpstreamResponse) : Bool :=
  200 ≤ response.status && response.status < 300

/-- `GET /contexts/*ctxId`: the relayed status, content type and text. -/
def getContext (ctxIdParts : List String) : Except HttpException UpstreamResponse := do
  let ctxId := String.intercalate "/" ctxIdParts
  match parseAcdpCtxId ctxId with
  | none => .error (badRequestException ("Invalid ctx_id format: " ++ ctxId))
  | some (authority, _) =>
    let baseUrl ← env.findByAuthority authority
    match truthy baseUrl with
    | none =>
      .error (appException "REGISTRY_NOT_FOUND" ("Unknown registry authority: " ++ authority) 404)
    | some baseUrl =>
      match env.get (trimSlash baseUrl ++ "/contexts/" ++ encodeURIComponent ctxId) with
      | .error (.federation _ _) =>
        .error (appException "FEDERATION_UPSTREAM_ERROR"
          ("Upstream registry " ++ authority ++ " unreachable for " ++ ctxId) 502)
      | .error (.other e) => .error e
      | .ok response =>
        if response.isSuccess then
          assertCtxIdBinding env response ctxId authority
        .ok { response with contentType := some (response.contentType.getD "application/json") }

end Controller

/-! ## What a relayed text holds -/

/-- The values of the members of a name, in the order of the text. -/
def membersNamed (o : List (String × Json)) (k : String) : List Json :=
  (o.filter (·.1 = k)).map Prod.snd

def earlierMembers (o : List (String × Json)) (k : String) : List Json := (membersNamed o k).dropLast

/-- The value is an object in which every `ctx_id` is the given one. -/
def IsBodyOf (ctxId : String) (v : Json) : Prop :=
  ∃ body, v = .obj body ∧ ∀ c, ("ctx_id", c) ∈ body → c = .str ctxId

/-- Every `body` of the text is an object, and every `ctx_id` in one is `ctxId`. -/
def BoundTo (ctxId : String) (o : List (String × Json)) : Prop :=
  ∀ v, ("body", v) ∈ o → IsBodyOf ctxId v

/-- The members that `JSON.parse` drops agree: the earlier `body` members are bound to the id, and
so are the earlier `ctx_id` members of the last one. -/
def RepeatsAgree (ctxId : String) (o : List (String × Json)) : Prop :=
  (∀ v ∈ earlierMembers o "body", IsBodyOf ctxId v) ∧
    ∀ body, lastMember o "body" = some (.obj body) →
      ∀ c ∈ earlierMembers body "ctx_id", c = .str ctxId

variable {o : List (String × Json)}

theorem mem_membersNamed {k : String} {v : Json} : v ∈ membersNamed o k ↔ (k, v) ∈ o := by
  simp only [membersNamed, List.mem_map, List.mem_filter, decide_eq_true_eq]
  constructor
  · rintro ⟨⟨k', v'⟩, ⟨hm, rfl⟩, rfl⟩
    exact hm
  · intro hm
    exact ⟨(k, v), ⟨hm, rfl⟩, rfl⟩

theorem lastMember_eq_getLast? (o : List (String × Json)) (k : String) :
    lastMember o k = (membersNamed o k).getLast? := by
  induction o using List.reverseRecOn with
  | nil => rfl
  | append_singleton o m ih =>
    rw [lastMember, List.reverse_append, List.reverse_singleton, List.singleton_append,
      lookup_cons_member, ← lastMember, ih]
    by_cases hm : m.1 = k
    · simp [membersNamed, hm]
    · simp [membersNamed, hm, Ne.symm hm]

theorem mem_iff_earlier_or_last {k : String} {last : Json} (hl : lastMember o k = some last)
    {v : Json} : (k, v) ∈ o ↔ v ∈ earlierMembers o k ∨ v = last := by
  rw [lastMember_eq_getLast?] at hl
  obtain ⟨earlier, hs⟩ := List.getLast?_eq_some_iff.mp hl
  rw [← mem_membersNamed, earlierMembers, hs]
  simp

/-! ## What the check establishes -/

section Binding

variable {env : ProxyEnv}

/-- The binding accepts the body of the response exactly when the parsed `ctx_id` is the requested
one. -/
def BindsCtxId (env : ProxyEnv) (response : UpstreamResponse) (ctxId : String) : Prop :=
  ∀ payload body, parseJson env.number response.body = some payload →
    payload.member "body" = some (.obj body) →
    (env.verifyCtxIdBinding (Json.stringify (.obj body)) ctxId = .ok () ↔
      (Json.obj body).member "ctx_id" = some (.str ctxId))

variable {response : UpstreamResponse} {ctxIdParts : List String} {v : Json}

theorem getContext_eq_ok
    (hr : getContext env ctxIdParts = .ok response) (hs : response.isSuccess = true) :
    ∃ payload body, parseJson env.number response.body = some payload ∧
      payload.member "body" = some (.obj body) ∧
      env.verifyCtxIdBinding (Json.stringify (.obj body)) (String.intercalate "/" ctxIdParts) =
        .ok () := by
  unfold getContext at hr
  dsimp only at hr
  split at hr
  · cases hr
  next authority id _ =>
  cases hf : env.findByAuthority authority with
  | error e =>
    rw [hf] at hr
    cases hr
  | ok baseUrl =>
    simp only [hf, bind, Except.bind] at hr
    split at hr
    · cases hr
    split at hr
    · cases hr
    · cases hr
    next upstream _ =>
    by_cases hu : upstream.isSuccess = true
    · rw [if_pos hu] at hr
      cases hc : assertCtxIdBinding env upstream (String.intercalate "/" ctxIdParts)
          authority with
      | error e =>
        rw [hc] at hr
        cases hr
      | ok u =>
        rw [hc] at hr
        cases hr
        unfold assertCtxIdBinding at hc
        split at hc
        · cases hc
        next payload hp =>
        split at hc
        · next body hb =>
          split at hc
          · next hv => exact ⟨payload, body, hp, hb, hv⟩
          · split at hc <;> cases hc
        · cases hc
    · -- the status is relayed as it is, so a success was a success upstream
      rw [if_neg hu] at hr
      cases hr
      exact absurd hs hu

theorem getContext_of_checked {authority id url : String} {baseUrl : Option String}
    (hp : parseAcdpCtxId (String.intercalate "/" ctxIdParts) = some (authority, id))
    (hf : env.findByAuthority authority = .ok baseUrl) (hu : truthy baseUrl = some url)
    (hg : env.get (trimSlash url ++ "/contexts/" ++
      encodeURIComponent (String.intercalate "/" ctxIdParts)) = .ok response)
    (hc : assertCtxIdBinding env response (String.intercalate "/" ctxIdParts) authority =
      .ok ()) :
    getContext env ctxIdParts =
      .ok { response with contentType := some (response.contentType.getD "application/json") } := by
  unfold getContext
  simp only [hp, hf, hu, hg, hc, bind, Except.bind]
  split <;> rfl

theorem eq_obj_of_collapse {body : List (String × Json)}
    (hv : v.collapse = .obj body) : ∃ o, v = .obj o := by
  cases v with
  | obj o => exact ⟨o, rfl⟩
  | _ => simp [collapse] at hv

theorem eq_obj_of_member_collapse {w : Json} {k : String} (hv : v.collapse.member k = some w) :
    ∃ o, v = .obj o := by
  cases v with
  | obj o => exact ⟨o, rfl⟩
  | _ => simp [collapse, member] at hv

theorem eq_str_of_collapse {s : String} (hv : v.collapse = .str s) : v = .str s := by
  cases v with
  | str t => rwa [collapse] at hv
  | _ => simp [collapse] at hv

theorem binding_of_getContext (hbi : BindsCtxId env response (String.intercalate "/" ctxIdParts))
    (hr : getContext env ctxIdParts = .ok response) (hs : response.isSuccess = true) :
    ∃ o body, syntaxTree env.number response.body = some (.obj o) ∧
      lastMember o "body" = some (.obj body) ∧
      lastMember body "ctx_id" = some (.str (String.intercalate "/" ctxIdParts)) := by
  obtain ⟨payload, parsed, hp, hb, hv⟩ := getContext_eq_ok hr hs
  have hct := (hbi payload parsed hp hb).mp hv
  obtain ⟨tree, ht, rfl⟩ := Option.map_eq_some_iff.mp hp
  obtain ⟨o, rfl⟩ := eq_obj_of_member_collapse hb
  rw [get_collapse, Option.map_eq_some_iff] at hb
  obtain ⟨last, hl, hc⟩ := hb
  obtain ⟨body, rfl⟩ := eq_obj_of_collapse hc
  rw [← hc, get_collapse, Option.map_eq_some_iff] at hct
  obtain ⟨id, hid, hi⟩ := hct
  obtain rfl := eq_str_of_collapse hi
  exact ⟨o, body, ht, hl, hid⟩

/-- **When a relayed text is bound to the requested id**: exactly when the repeated members that
`JSON.parse` drops agree with it. -/
theorem relay_bound_iff {ctxIdParts : List String} {response : UpstreamResponse}
    (hbinding : BindsCtxId env response (String.intercalate "/" ctxIdParts))
    (hrelay : getContext env ctxIdParts = .ok response) (hsuccess : response.isSuccess = true) :
    ∃ o, syntaxTree env.number response.body = some (.obj o) ∧
      (BoundTo (String.intercalate "/" ctxIdParts) o ↔
        RepeatsAgree (String.intercalate "/" ctxIdParts) o) := by
  obtain ⟨o, body, ht, hl, hi⟩ := binding_of_getContext hbinding hrelay hsuccess
  refine ⟨o, ht, ?_⟩
  unfold BoundTo RepeatsAgree
  constructor
  · intro hbd
    refine ⟨fun v hv => hbd v ((mem_iff_earlier_or_last hl).mpr (Or.inl hv)), ?_⟩
    intro body' hb' c hc
    obtain rfl : body = body' := by simpa using hl.symm.trans hb'
    obtain ⟨b, hb, ha⟩ := hbd _ ((mem_iff_earlier_or_last hl).mpr (Or.inr rfl))
    obtain rfl : body = b := by simpa using hb
    exact ha c ((mem_iff_earlier_or_last hi).mpr (Or.inl hc))
  · rintro ⟨hea, hr⟩ v hv
    rcases (mem_iff_earlier_or_last hl).mp hv with hv | rfl
    · exact hea v hv
    · refine ⟨body, rfl, fun c hc => ?_⟩
      rcases (mem_iff_earlier_or_last hi).mp hc with hc | hc
      · exact hr body hl c hc
      · exact hc

end Binding

/-! ## A text with two bodies -/

section TwoBodies

def requestedParts : List String :=
  ["acdp:", "", "r.example", "0b7d9a3e-1c2f-4a5b-8c6d-7e8f9a0b1c2d"]

def requestedBody : Json := .obj [("ctx_id", .str (String.intercalate "/" requestedParts))]

def otherBody : Json :=
  .obj [("ctx_id", .str "acdp://r.example/11111111-1c2f-4a5b-8c6d-7e8f9a0b1c2d")]

def rawNumber (numeral : String) : JsNumber := ⟨none, numeral⟩

/-- The registry answers with the text of the members, and the binding compares the `ctx_id` of the
body. -/
def proxyServing (o : List (String × Json)) : ProxyEnv where
  number := rawNumber
  findByAuthority _ := .ok (some "https://r.example")
  get _ := .ok ⟨200, none, Json.stringify (.obj o)⟩
  verifyCtxIdBinding bodyJson ctxId :=
    match parseJson rawNumber bodyJson with
    | none => .error ⟨none, "invalid body JSON"⟩
    | some body =>
      if Json.strOf (body.member "ctx_id") = some ctxId then .ok ()
      else .error ⟨none, "context substitution: requested " ++ ctxId⟩

theorem parseAcdpCtxId_requestedParts :
    parseAcdpCtxId (String.intercalate "/" requestedParts) =
      some ("r.example", "0b7d9a3e-1c2f-4a5b-8c6d-7e8f9a0b1c2d") := by
  decide

theorem parseJson_requestedBody : parseJson rawNumber requestedBody.stringify = some requestedBody := by
  refine parseJson_stringify ?_ ?_
  · simp [requestedBody, Numerals, NumeralsMembers]
  · simp [requestedBody, Distinct, DistinctMembers]

theorem getContext_proxyServing {o : List (String × Json)} (hn : (Json.obj o).Numerals rawNumber)
    (hb : (Json.collapse (.obj o)).member "body" = some requestedBody) :
    getContext (proxyServing o) requestedParts =
        .ok ⟨200, some "application/json", Json.stringify (.obj o)⟩ ∧
      BindsCtxId (proxyServing o) ⟨200, some "application/json", Json.stringify (.obj o)⟩
        (String.intercalate "/" requestedParts) := by
  have hp : parseJson rawNumber (Json.stringify (.obj o)) = some (Json.collapse (.obj o)) := by
    rw [parseJson, syntaxTree_stringify hn, Option.map_some]
  have hv : (proxyServing o).verifyCtxIdBinding requestedBody.stringify
      (String.intercalate "/" requestedParts) = .ok () := by
    simp only [proxyServing, parseJson_requestedBody]
    rw [if_pos (by simp [requestedBody, Json.member, Json.get, Json.strOf])]
  have hc : assertCtxIdBinding (proxyServing o) ⟨200, none, Json.stringify (.obj o)⟩
      (String.intercalate "/" requestedParts) "r.example" = .ok () := by
    unfold assertCtxIdBinding
    simp only [show (proxyServing o).number = rawNumber from rfl, hp, hb]
    simp only [requestedBody] at hv ⊢
    rw [hv]
  constructor
  · exact getContext_of_checked parseAcdpCtxId_requestedParts rfl rfl rfl hc
  · intro payload body hpa hm
    obtain rfl : Json.collapse (.obj o) = payload := by
      simpa using hp.symm.trans hpa
    have heq : requestedBody = .obj body := by simpa using hb.symm.trans hm
    rw [← heq]
    refine ⟨fun _ => ?_, fun _ => hv⟩
    simp [requestedBody, Json.member, Json.get]

theorem relay_bound_iff_requestedBody :
    ∃ o, syntaxTree rawNumber (Json.stringify (.obj [("body", requestedBody)])) = some (.obj o) ∧
      (BoundTo (String.intercalate "/" requestedParts) o ↔
        RepeatsAgree (String.intercalate "/" requestedParts) o) := by
  obtain ⟨hr, hb⟩ := getContext_proxyServing (o := [("body", requestedBody)])
    (by simp [Numerals, NumeralsMembers, requestedBody]) (by
      rw [get_collapse]
      simp [lastMember, requestedBody, collapse, collapseMembers, setMember])
  exact relay_bound_iff hb hr (by decide)

/-- **A relayed substitution**: the text has two bodies, the first of another context. A reader that
keeps the first of repeated members is given that one. -/
theorem relay_repeated_body :
    getContext (proxyServing [("body", otherBody), ("body", requestedBody)]) requestedParts =
        .ok ⟨200, some "application/json",
          Json.stringify (.obj [("body", otherBody), ("body", requestedBody)])⟩ ∧
      BindsCtxId (proxyServing [("body", otherBody), ("body", requestedBody)])
        ⟨200, some "application/json",
          Json.stringify (.obj [("body", otherBody), ("body", requestedBody)])⟩
        (String.intercalate "/" requestedParts) ∧
      syntaxTree rawNumber (Json.stringify (.obj [("body", otherBody), ("body", requestedBody)])) =
        some (.obj [("body", otherBody), ("body", requestedBody)]) ∧
      ¬BoundTo (String.intercalate "/" requestedParts)
        [("body", otherBody), ("body", requestedBody)] := by
  have hn : (obj [("body", otherBody), ("body", requestedBody)]).Numerals rawNumber := by
    simp [Numerals, NumeralsMembers, requestedBody, otherBody]
  have hb : (collapse (.obj [("body", otherBody), ("body", requestedBody)])).member "body" =
      some requestedBody := by
    rw [get_collapse]
    simp [lastMember, requestedBody, collapse, collapseMembers, setMember]
  obtain ⟨hr, hbi⟩ := getContext_proxyServing hn hb
  refine ⟨hr, hbi, syntaxTree_stringify hn, ?_⟩
  · intro hbd
    obtain ⟨body, hb, ha⟩ := hbd otherBody List.mem_cons_self
    rw [otherBody, obj.injEq] at hb
    subst hb
    have hi := ha _ List.mem_cons_self
    rw [str.injEq] at hi
    exact absurd hi (by decide)

end TwoBodies

end AcdpControlPlane
