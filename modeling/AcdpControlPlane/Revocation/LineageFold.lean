import AcdpControlPlane.Common.Sieve
import AcdpControlPlane.Revocation.Sweep

/-!
# What a lineage walk folds

The loop of `walkRevocationLineage` keeps the members that verify, skips the members that say nothing about a
key or fail for good, and is stopped by a member that cannot be verified now. A registry chooses the members
and their order. It can add members that are skipped, wherever it likes, but the walk then returns what it would
have returned without them. If the walk is stopped, then nothing is recorded.
-/

namespace AcdpControlPlane

/-! ## The tally -/

def Outcome.status? : Outcome → Option UnverifiedStatus
  | verified _ _ => none
  | unverified status _ _ => some status

def LineageMemberVerdictCounts.count (counts : LineageMemberVerdictCounts) : Option UnverifiedStatus → ℕ
  | none => counts.verified
  | some .invalid => counts.invalid
  | some .unavailable => counts.unavailable
  | some .unsupported => counts.unsupported

def LineageWalkOutcome.memberVerdictCounts : LineageWalkOutcome → LineageMemberVerdictCounts
  | ok _ counts => counts
  | failed _ _ counts => counts

theorem count_foldl_add (counts : LineageMemberVerdictCounts) (outcomes : List Outcome)
    (status : Option UnverifiedStatus) :
    (outcomes.foldl LineageMemberVerdictCounts.add counts).count status =
      counts.count status + outcomes.countP fun outcome => outcome.status? = status := by
  induction outcomes generalizing counts with
  | nil => rfl
  | cons outcome outcomes ih =>
    have ha : (counts.add outcome).count status =
        counts.count status + if outcome.status? = status then 1 else 0 := by
      rcases outcome with _ | ⟨_ | _ | _, _, _⟩ <;> rcases status with _ | _ | _ | _ <;> rfl
    rw [List.foldl_cons, ih, ha, List.countP_cons]
    simp only [decide_eq_true_eq]
    omega

/-! ## The loop -/

inductive WalkStop where
  | threw (err : JsError)
  | unavailable (ctxId reason : String)

section Walk

variable (verifyMemberBody : VerifyMemberBody) (params : LineageWalkParams)

def verdictOf (body : Json) : Except JsError Outcome :=
  verifyMemberBody params.registryAuthority params.tenantId body.stringify body

def judgeMember (member : Json × Option String) : Sieve.Verdict WalkStop LineageMember :=
  match foldedMember member with
  | none => .skip
  | some (contextType, ctxId) =>
    match verdictOf verifyMemberBody params member.1 with
    | .error err => .stop (.threw err)
    | .ok (.unverified .unavailable _ reason) => .stop (.unavailable ctxId reason)
    | .ok (.unverified _ _ _) => .skip
    | .ok (.verified revocation _) =>
      .keep ⟨ctxId, contextType, Json.strOf (member.1.member "origin_registry"), revocation⟩

def memberVerdict (member : Json × Option String) : Option Outcome :=
  match foldedMember member with
  | none => none
  | some _ => (verdictOf verifyMemberBody params member.1).toOption

/-- The verdicts of a walk: those on the members that take part, up to the first that stops it. -/
def evaluated (members : List (Json × Option String)) : List Outcome :=
  (Sieve.seen (judgeMember verifyMemberBody params) members).filterMap
    (memberVerdict verifyMemberBody params)

def walkEnd (counts : LineageMemberVerdictCounts) :
    Except WalkStop (List LineageMember) → Except JsError LineageWalkOutcome
  | .ok members => .ok (.ok members counts)
  | .error (.threw err) => .error err
  | .error (.unavailable ctxId reason) =>
    .ok (.failed (.failure .transient) ("lineage '" ++ params.lineageId ++ "' member '" ++ ctxId ++
      "' unverifiable this pass: " ++ reason) counts)

variable {verifyMemberBody params}

theorem evaluated_cons (member : Json × Option String) (rest : List (Json × Option String)) :
    evaluated verifyMemberBody params (member :: rest) =
      (memberVerdict verifyMemberBody params member).toList ++
        match judgeMember verifyMemberBody params member with
        | .stop _ => []
        | _ => evaluated verifyMemberBody params rest := by
  rw [evaluated, Sieve.seen]
  cases judgeMember verifyMemberBody params member <;> rw [List.filterMap_cons] <;>
    cases memberVerdict verifyMemberBody params member <;> rfl

theorem walkMembers_eq (raws : List (Json × Option String)) (members : List LineageMember)
    (counts : LineageMemberVerdictCounts) :
    walkMembers verifyMemberBody params raws members counts =
      walkEnd params ((evaluated verifyMemberBody params raws).foldl .add counts)
        ((Sieve.run (judgeMember verifyMemberBody params) raws).map (members ++ ·)) := by
  induction raws generalizing members counts with
  | nil => simp [walkMembers, Sieve.run, evaluated, Sieve.seen, walkEnd, Except.map]
  | cons raw raws ih =>
    rw [walkMembers, Sieve.run, evaluated_cons, judgeMember, memberVerdict]
    cases foldedMember raw with
    | none => exact ih members counts
    | some folded =>
      dsimp only [verdictOf]
      cases verifyMemberBody params.registryAuthority params.tenantId raw.1.stringify raw.1 with
      | error err => rfl
      | ok outcome =>
        -- in each case the verdict is counted first
        rcases outcome with ⟨revocation, body⟩ | ⟨_ | _ | _, trustClass, reason⟩
        · refine (ih _ _).trans ?_
          cases Sieve.run (judgeMember verifyMemberBody params) raws <;> simp [Except.map] <;> rfl
        · exact ih _ _
        · rfl
        · exact ih _ _

end Walk

/-! ## The response -/

section Response

variable (params : LineageWalkParams)

/-- The registry answers the request for the lineage with an array. -/
def ServesLineage (get : String → Except FetchError FederationResponse) (raw : List Json) : Prop :=
  ∃ resp, get (trimSlash params.baseUrl ++ "/lineages/" ++ encodeURIComponent params.lineageId) = .ok resp ∧
    resp.isSuccess = true ∧ resp.json = .ok (.arr raw)

def NamesContext (raw : List Json) : Prop :=
  ∃ item ∈ raw, ∃ body, item.member "body" = some body ∧ Json.isObjectLike (some body) = true ∧
    Json.strOf (body.member "ctx_id") = some params.expectCtxId

variable {params} {verifyMemberBody : VerifyMemberBody}
  {get : String → Except FetchError FederationResponse} {raw raw' : List Json}

theorem rawMember_eq_some_iff {item body : Json} {ctxId? : Option String} :
    rawMember item = some (body, ctxId?) ↔ item.member "body" = some body ∧
      Json.isObjectLike (some body) = true ∧ Json.strOf (body.member "ctx_id") = ctxId? := by
  unfold rawMember
  cases item.member "body" with
  | none => simp
  | some body' =>
    dsimp only
    constructor
    · intro h
      split at h
      · next ho =>
        cases h
        exact ⟨rfl, ho, rfl⟩
      · cases h
    · rintro ⟨hb, ho, rfl⟩
      cases hb
      rw [if_pos ho]

theorem foldedMember_eq_some {body : Json} {ctxId? : Option String} {contextType ctxId : String}
    (h : foldedMember (body, ctxId?) = some (contextType, ctxId)) :
    Json.strOf (body.member "type") = some contextType ∧ isRevocationContextType contextType = true ∧
      ctxId? = some ctxId ∧ ctxId ≠ "" := by
  unfold foldedMember at h
  split at h
  · next ht hc =>
    split at h
    · next hf =>
      cases h
      exact ⟨ht, hf.1, hc, hf.2⟩
    · cases h
  · cases h

theorem namesContext_iff :
    NamesContext params raw ↔ ((raw.filterMap rawMember).any (·.2 = some params.expectCtxId)) = true := by
  simp only [List.any_eq_true, List.mem_filterMap, decide_eq_true_eq]
  constructor
  · rintro ⟨item, hi, body, hb, ho, hc⟩
    exact ⟨(body, _), ⟨item, hi, rawMember_eq_some_iff.mpr ⟨hb, ho, rfl⟩⟩, hc⟩
  · rintro ⟨⟨body, ctxId?⟩, ⟨item, hi, hr⟩, hc⟩
    obtain ⟨hb, ho, rfl⟩ := rawMember_eq_some_iff.mp hr
    exact ⟨item, hi, body, hb, ho, hc⟩

theorem ServesLineage.unique (h : ServesLineage params get raw) (h' : ServesLineage params get raw') :
    raw = raw' := by
  obtain ⟨resp, hg, -, hj⟩ := h
  obtain ⟨resp', hg', -, hj'⟩ := h'
  rw [hg] at hg'
  cases hg'
  rw [hj] at hj'
  cases hj'
  rfl

theorem walkRevocationLineage_of_named (hsv : ServesLineage params get raw)
    (hn : NamesContext params raw) :
    walkRevocationLineage verifyMemberBody params get =
      walkMembers verifyMemberBody params (raw.filterMap rawMember) [] .zero := by
  obtain ⟨resp, hg, hs, hj⟩ := hsv
  have hl : raw.length ≠ 0 := by
    obtain ⟨item, hi, -⟩ := hn
    exact List.length_pos_iff.mpr (List.ne_nil_of_mem hi) |>.ne'
  unfold walkRevocationLineage
  rw [hg]
  dsimp only
  rw [hs, hj]
  dsimp only
  rw [if_neg (by decide), if_neg hl, if_pos (namesContext_iff.mp hn)]

theorem walkRevocationLineage_of_not_named
    (h : ¬ ∃ raw, ServesLineage params get raw ∧ NamesContext params raw) :
    ∃ kind reason, walkRevocationLineage verifyMemberBody params get = .ok (.failed kind reason .zero) := by
  unfold walkRevocationLineage
  split
  · exact ⟨_, _, rfl⟩
  · exact ⟨_, _, rfl⟩
  · next resp hg =>
    split
    · exact ⟨_, _, rfl⟩
    · next hst =>
      split
      · exact ⟨_, _, rfl⟩
      · next raw hj =>
        dsimp only
        split
        · exact ⟨_, _, rfl⟩
        · split
          · next hn =>
            have hs : resp.isSuccess = true := by simpa using hst
            exact absurd ⟨raw, ⟨resp, hg, hs, hj⟩, namesContext_iff.mpr hn⟩ h
          · exact ⟨_, _, rfl⟩
      · exact ⟨_, _, rfl⟩

end Response

/-! ## The fold -/

section Fold

variable (verifyMemberBody : VerifyMemberBody) (params : LineageWalkParams)

def verifiedMember (item : Json) : Option LineageMember :=
  (rawMember item).bind fun member =>
    (foldedMember member).bind fun (contextType, ctxId) =>
      match verdictOf verifyMemberBody params member.1 with
      | .ok (.verified revocation _) =>
        some ⟨ctxId, contextType, Json.strOf (member.1.member "origin_registry"), revocation⟩
      | _ => none

/-- An item that may be added: not an object, without a body, not a revocation, or one that fails for good. -/
inductive HarmlessItem (item : Json) : Prop where
  | nonObject (h : Json.isObjectLike (some item) = false)
  | noBody (h : Json.isObjectLike (item.member "body") = false)
  | nonRevocation (body : Json) (hbody : item.member "body" = some body)
      (h : ∀ contextType, Json.strOf (body.member "type") = some contextType →
        isRevocationContextType contextType = false)
  | dropped (body : Json) (status : UnverifiedStatus) (trustClass : Option TrustClass) (reason : String)
      (hbody : item.member "body" = some body)
      (hverdict : verdictOf verifyMemberBody params body = .ok (.unverified status trustClass reason))
      (hstatus : status = .invalid ∨ status = .unsupported)

/-- A revocation with a context id that cannot be verified now. -/
structure UnavailableItem (item : Json) : Prop where
  exists_verdict : ∃ body contextType ctxId trustClass reason, rawMember item = some (body, some ctxId) ∧
    foldedMember (body, some ctxId) = some (contextType, ctxId) ∧
    verdictOf verifyMemberBody params body = .ok (.unverified .unavailable trustClass reason)

variable {verifyMemberBody params} {get get' : String → Except FetchError FederationResponse}
  {raw raw' : List Json} {members : List LineageMember} {counts : LineageMemberVerdictCounts}

theorem verifiedMember_eq_some {item : Json} {member : LineageMember}
    (h : verifiedMember verifyMemberBody params item = some member) :
    ∃ body verifiedBody, rawMember item = some (body, some member.ctxId) ∧
      foldedMember (body, some member.ctxId) = some (member.contextType, member.ctxId) ∧
      verdictOf verifyMemberBody params body = .ok (.verified member.revocation verifiedBody) := by
  obtain ⟨⟨body, ctxId?⟩, hr, h⟩ := Option.bind_eq_some_iff.mp h
  obtain ⟨⟨contextType, ctxId⟩, hf, h⟩ := Option.bind_eq_some_iff.mp h
  obtain ⟨-, -, rfl, -⟩ := foldedMember_eq_some hf
  dsimp only at h
  split at h
  · next revocation verifiedBody hv =>
    cases h
    exact ⟨body, verifiedBody, hr, hf, hv⟩
  · cases h

theorem walkEnd_eq_ok_iff {counts' : LineageMemberVerdictCounts}
    {result : Except WalkStop (List LineageMember)} :
    walkEnd params counts' result = .ok (.ok members counts) ↔ result = .ok members ∧ counts = counts' := by
  rcases result with (err | ⟨ctxId, reason⟩) | members' <;> simp [walkEnd, eq_comm]

theorem walkRevocationLineage_eq_ok_iff :
    walkRevocationLineage verifyMemberBody params get = .ok (.ok members counts) ↔
      ∃ raw, ServesLineage params get raw ∧ NamesContext params raw ∧
        Sieve.run (judgeMember verifyMemberBody params) (raw.filterMap rawMember) = .ok members ∧
        counts = (evaluated verifyMemberBody params (raw.filterMap rawMember)).foldl .add .zero := by
  by_cases hn : ∃ raw, ServesLineage params get raw ∧ NamesContext params raw
  · obtain ⟨raw, hs, hnm⟩ := hn
    have hni : ∀ result : Except WalkStop (List LineageMember), result.map ([] ++ ·) = result := by
      rintro (_ | _) <;> rfl
    rw [walkRevocationLineage_of_named hs hnm, walkMembers_eq, hni, walkEnd_eq_ok_iff]
    constructor
    · intro h
      exact ⟨raw, hs, hnm, h⟩
    · rintro ⟨raw', hs', -, h⟩
      rw [hs.unique hs']
      exact h
  · obtain ⟨kind, reason, hf⟩ := @walkRevocationLineage_of_not_named _ verifyMemberBody _ hn
    rw [hf]
    refine iff_of_false nofun ?_
    rintro ⟨raw, hs, hnm, -⟩
    exact hn ⟨raw, hs, hnm⟩

theorem members_eq_of_run
    (h : Sieve.run (judgeMember verifyMemberBody params) (raw.filterMap rawMember) = .ok members) :
    members = raw.filterMap (verifiedMember verifyMemberBody params) := by
  rw [(Sieve.run_eq_ok_iff.mp h).2, List.filterMap_filterMap]
  refine congrArg (List.filterMap · raw) (funext fun item => ?_)
  refine congrArg (Option.bind (rawMember item)) (funext fun member => ?_)
  unfold judgeMember
  cases foldedMember member with
  | none => rfl
  | some folded =>
    rcases verdictOf verifyMemberBody params member.1 with _ | _ | ⟨_ | _ | _, _, _⟩ <;> rfl

/-! ## Items that are added -/

theorem HarmlessItem.judge {item : Json} (h : HarmlessItem verifyMemberBody params item)
    {member : Json × Option String} (hm : rawMember item = some member) :
    judgeMember verifyMemberBody params member = .skip := by
  obtain ⟨hb, ho, -⟩ := rawMember_eq_some_iff.mp hm
  cases h with
  | nonObject h =>
    cases item with
    | obj o => cases h
    | _ => cases hb
  | noBody h =>
    rw [hb, ho] at h
    cases h
  | nonRevocation body' hb' h =>
    rw [hb] at hb'
    cases hb'
    unfold judgeMember
    split
    · rfl
    · next contextType ctxId hf =>
      obtain ⟨ht, hr, -⟩ := foldedMember_eq_some hf
      rw [h contextType ht] at hr
      cases hr
  | dropped body' status trustClass reason hb' hv hs =>
    rw [hb] at hb'
    cases hb'
    unfold judgeMember
    split
    · rfl
    · rw [hv]
      rcases hs with rfl | rfl <;> rfl

theorem not_ok_of_unavailable {item : Json} (hs : ServesLineage params get raw) (hi : item ∈ raw)
    (h : UnavailableItem verifyMemberBody params item) :
    walkRevocationLineage verifyMemberBody params get ≠ .ok (.ok members counts) := by
  intro hw
  obtain ⟨raw', hs', -, hru, -⟩ := walkRevocationLineage_eq_ok_iff.mp hw
  obtain rfl := hs.unique hs'
  obtain ⟨body, contextType, ctxId, trustClass, reason, hr, hf, hv⟩ := h.exists_verdict
  have hst : judgeMember verifyMemberBody params (body, some ctxId) = .stop (.unavailable ctxId reason) := by
    simp [judgeMember, hf, hv]
  exact (Sieve.run_eq_ok_iff.mp hru).1 _ (List.mem_filterMap.mpr ⟨item, hi, hr⟩) _ hst

theorem count_of_walk {outcome : LineageWalkOutcome}
    (h : walkRevocationLineage verifyMemberBody params get = .ok outcome)
    (hs : ServesLineage params get raw) (hn : NamesContext params raw) (status : Option UnverifiedStatus) :
    outcome.memberVerdictCounts.count status =
      (evaluated verifyMemberBody params (raw.filterMap rawMember)).countP fun outcome =>
        outcome.status? = status := by
  have ht : outcome.memberVerdictCounts =
      (evaluated verifyMemberBody params (raw.filterMap rawMember)).foldl .add .zero := by
    rw [walkRevocationLineage_of_named hs hn, walkMembers_eq] at h
    generalize (Sieve.run (judgeMember verifyMemberBody params) (raw.filterMap rawMember)).map ([] ++ ·) =
      result at h
    rcases result with (err | ⟨ctxId, reason⟩) | members
    · cases h
    · cases h
      rfl
    · cases h
      rfl
  rw [ht, count_foldl_add]
  rcases status with _ | _ | _ | _ <;> exact Nat.zero_add _

/-- **A lineage walk folds exactly the verified members.** For every verifier of bodies and every response:

* a walk returns only for an array with an item that names the context of the walk, and its members are
  the items that verify, in their order;
* harmless items may be inserted anywhere;
* an item that is unavailable makes the walk fail;
* the tally counts each verdict on a member that was evaluated;

and the walk of a lineage with an unavailable item leaves the tables as they were. -/
theorem lineage_walk_folds (verifyMemberBody : VerifyMemberBody) (params : LineageWalkParams) :
    (∀ get members counts, walkRevocationLineage verifyMemberBody params get = .ok (.ok members counts) →
      ∃ raw, ServesLineage params get raw ∧ NamesContext params raw ∧
        members = raw.filterMap (verifiedMember verifyMemberBody params)) ∧
    (∀ get get' raw raw' members counts,
      walkRevocationLineage verifyMemberBody params get = .ok (.ok members counts) →
      ServesLineage params get raw → ServesLineage params get' raw' →
      Sieve.Padded (HarmlessItem verifyMemberBody params) raw raw' →
      ∃ counts', walkRevocationLineage verifyMemberBody params get' = .ok (.ok members counts')) ∧
    (∀ get raw item, ServesLineage params get raw → item ∈ raw →
      UnavailableItem verifyMemberBody params item → ∀ members counts,
      walkRevocationLineage verifyMemberBody params get ≠ .ok (.ok members counts)) ∧
    (∀ get outcome, walkRevocationLineage verifyMemberBody params get = .ok outcome →
      (∀ raw, ServesLineage params get raw → NamesContext params raw → ∀ status,
        outcome.memberVerdictCounts.count status =
          (evaluated verifyMemberBody params (raw.filterMap rawMember)).countP fun outcome =>
            outcome.status? = status) ∧
      ((¬ ∃ raw, ServesLineage params get raw ∧ NamesContext params raw) →
        outcome.memberVerdictCounts = .zero)) ∧
    ∀ sdk env raw item, ServesLineage params (env.walk params).get raw → item ∈ raw →
      UnavailableItem (verifyRevocationBody sdk (env.walk params)) params item →
      ∀ db, (walkAndPersistLineage sdk env params db).2 = db := by
  refine ⟨?_, ?_, ?_, ?_, ?_⟩
  · intro get members counts hw
    obtain ⟨raw, hs, hn, hr, -⟩ := walkRevocationLineage_eq_ok_iff.mp hw
    exact ⟨raw, hs, hn, members_eq_of_run hr⟩
  · intro get get' raw raw' members counts hw hs hs' hp
    obtain ⟨raw₀, hs₀, hn, hr, -⟩ := walkRevocationLineage_eq_ok_iff.mp hw
    obtain rfl := hs.unique hs₀
    have hsk := hp.filterMap (f := rawMember) fun item hi _ hm => hi.judge hm
    refine ⟨_, walkRevocationLineage_eq_ok_iff.mpr
      ⟨raw', hs', hn.imp fun _ h => ⟨hp.subset h.1, h.2⟩, ?_, rfl⟩⟩
    rw [Sieve.run_of_padded hsk]
    exact hr
  · intro get raw item hs hi hu members counts
    exact not_ok_of_unavailable hs hi hu
  · intro get outcome hw
    refine ⟨fun raw hs hn => count_of_walk hw hs hn, ?_⟩
    intro hnmd
    obtain ⟨kind, reason, hf⟩ := @walkRevocationLineage_of_not_named _ verifyMemberBody _ hnmd
    rw [hw] at hf
    cases hf
    rfl
  · intro sdk env raw item hs hi hu db
    unfold walkAndPersistLineage
    split
    · rfl
    · rfl
    · next members counts hw => exact absurd hw (not_ok_of_unavailable hs hi hu)

end Fold

def scriptedVerifier : VerifyMemberBody := fun _ _ _ body =>
  match Json.strOf (body.member "verdict") with
  | some "verified" =>
    .ok (.verified ⟨"fp", "2026-01-01", none, none, "did:web:a", "did:web:a", .producer_signed⟩ body)
  | some "unavailable" => .ok (.unavailable "no answer")
  | _ => .ok (.invalid "no signature")

def scriptedItem (ctxId verdict : String) : Json :=
  .obj [("body", .obj [("type", .str "key-revocation"), ("ctx_id", .str ctxId), ("verdict", .str verdict)])]

def serving (raw : List Json) : String → Except FetchError FederationResponse :=
  fun _ => .ok ⟨200, .ok (.arr raw)⟩

def scriptedParams : LineageWalkParams := ⟨"l", "reg", "https://reg", "t", "c"⟩

/-- A registry puts a text and a revocation with a bad signature before the only genuine member. -/
theorem lineage_walk_folds_scripted : ∃ member counts,
    walkRevocationLineage scriptedVerifier scriptedParams
        (serving [.str "", scriptedItem "b" "bad", scriptedItem "c" "verified"]) = .ok (.ok [member] counts) ∧
      member.ctxId = "c" := by
  have hi := (lineage_walk_folds scriptedVerifier scriptedParams).2.1
    (serving [scriptedItem "c" "verified"])
    (serving [.str "", scriptedItem "b" "bad", scriptedItem "c" "verified"]) _ _
    [⟨"c", "key-revocation", none, "fp", "2026-01-01", none, none, "did:web:a", "did:web:a",
      .producer_signed⟩] ⟨1, 0, 0, 0⟩ rfl ⟨_, rfl, rfl, rfl⟩ ⟨_, rfl, rfl, rfl⟩
    (.insert (.nonObject rfl)
      (.insert (.dropped _ .invalid none "no signature" rfl rfl (Or.inl rfl)) (.keep _ .nil)))
  obtain ⟨counts, hw⟩ := hi
  exact ⟨_, counts, hw, rfl⟩

end AcdpControlPlane
