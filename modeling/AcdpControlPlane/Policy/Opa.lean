import AcdpControlPlane.Common.JsonText
import AcdpControlPlane.Policy.Request

/-!
# Decisions of OPA

`OpaPolicyDecider` (`src/policy/opa-policy.decider.ts`) posts a request to OPA and reads the decision from
the answer. The call of `fetch` and the parsing of the body stand in a `try`, and what they throw is a
failure, which is an `allow` if the operator wants it so. The interpretation of the parsed body stands
outside: it reads a member of whatever JSON value the body is, and `null` has no members.
-/

namespace AcdpControlPlane.Policy

inductive OpaOutcome where
  | failed
  | response (status : ℕ) (body : List UInt8)

inductive OpaDecision where
  | allow
  | deny (code : PolicyDenyCode) (reason : Json)
  | indeterminate (note : Json)

/-- How `resp.json()` reads bytes, and numbers in them. -/
structure OpaEnv where
  decode : List UInt8 → String
  number : String → JsNumber

/-- `left ?? right`. -/
def nullish (left : Option Json) (right : Json) : Json :=
  match left with
  | none | some .null => right
  | some v => v

/-- A code that is one of `DENY_CODES`, and `visibility` otherwise. -/
def denyCode : Json → PolicyDenyCode
  | .str "audience" => .audience
  | .str "scope" => .scope
  | .str "tenant_mismatch" => .tenantMismatch
  | .str "unauthenticated" => .unauthenticated
  | _ => .visibility

/-- The decision in a `result` that is an object or an array. -/
def interpretResult (r : Json) : OpaDecision :=
  match r.member "allow" with
  | some (.bool true) => .allow
  | some (.bool false) =>
    .deny (denyCode (nullish (r.member "deny_code") (.str "visibility")))
      (nullish (r.member "deny_reason") (.str "opa denied"))
  | _ =>
    match r.member "indeterminate" with
    | some (.bool true) => .indeterminate (nullish (r.member "note") (.str "opa indeterminate"))
    | _ => .indeterminate (.str "opa result has neither allow nor indeterminate")

def interpretOpa (payload : Json) : Except JsError OpaDecision :=
  match payload with
  | .null => .error ⟨"Cannot read properties of null (reading 'result')"⟩
  | _ =>
    match payload.member "result" with
    | some (.obj r) => .ok (interpretResult (.obj r))
    | some (.arr r) => .ok (interpretResult (.arr r))
    | _ => .ok (.indeterminate (.str "opa returned no result"))

def onError (failOpen : Bool) : OpaDecision :=
  if failOpen then .allow else .indeterminate (.str "opa unreachable")

def OpaPolicyDecider.decide (env : OpaEnv) (failOpen : Bool) : OpaOutcome → Except JsError OpaDecision
  | .failed => .ok (onError failOpen)
  | .response status body =>
    if ¬ (200 ≤ status ∧ status ≤ 299) then .ok (onError failOpen)
    else
      match parseJson env.number (env.decode body) with
      | none => .ok (onError failOpen)
      | some payload => interpretOpa payload

/-! ## What is decided -/

def OpaOutcome.payload (env : OpaEnv) : OpaOutcome → Option Json
  | .failed => none
  | .response status body =>
    if 200 ≤ status ∧ status ≤ 299 then parseJson env.number (env.decode body) else none

/-- The member `allow` of the `result` of an object. -/
def allowOf (payload : Json) : Option Json := (payload.member "result").bind (·.member "allow")

variable {payload r : Json}

theorem OpaPolicyDecider.decide_eq (env : OpaEnv) (failOpen : Bool) (outcome : OpaOutcome) :
    OpaPolicyDecider.decide env failOpen outcome =
      match outcome.payload env with
      | none => .ok (onError failOpen)
      | some payload => interpretOpa payload := by
  cases outcome with
  | failed => rfl
  | response status body =>
    simp only [OpaPolicyDecider.decide, OpaOutcome.payload]
    by_cases ho : 200 ≤ status ∧ status ≤ 299
    · rw [if_neg (not_not.mpr ho), if_pos ho]
    · rw [if_pos ho, if_neg ho]

/-- What a decision says of the member `allow`. -/
def OpaDecision.Of (allow : Option Json) : OpaDecision → Prop
  | .allow => allow = some (.bool true)
  | .deny _ _ => allow = some (.bool false)
  | .indeterminate _ => ∀ b, allow ≠ some (.bool b)

theorem interpretResult_of (r : Json) : (interpretResult r).Of (r.member "allow") := by
  unfold interpretResult
  split
  · next h => exact h
  · next h => exact h
  · next hno hy =>
    have hn : ∀ b, r.member "allow" ≠ some (.bool b) := by
      intro b
      cases b with
      | true => exact hno
      | false => exact hy
    split <;> exact hn

theorem interpretOpa_of (hn : payload ≠ .null) :
    ∃ decision, interpretOpa payload = .ok decision ∧ decision.Of (allowOf payload) := by
  unfold interpretOpa allowOf
  split
  · exact absurd rfl hn
  · split
    · next r hr => exact ⟨_, rfl, hr ▸ interpretResult_of (.obj r)⟩
    · next r hr => exact ⟨_, rfl, hr ▸ interpretResult_of (.arr r)⟩
    · next ho ha =>
      -- a result that is neither an object nor an array has no members
      refine ⟨_, rfl, fun b => ?_⟩
      cases hr : payload.member "result" with
      | none => exact nofun
      | some r =>
        cases r with
        | obj r => exact absurd hr (ho r)
        | arr r => exact absurd hr (ha r)
        | _ => exact nofun

/-- **What OPA decides.** The call throws exactly if the answer is 2xx with the body `null`. It is an
`allow` if the `result` says so exactly, or if the request failed and the decider fails open; a `deny` if
the `result` says so exactly; and otherwise, for whatever else the body is, indeterminate. -/
theorem opa_decides (env : OpaEnv) (failOpen : Bool) (outcome : OpaOutcome) :
    ((∃ err, OpaPolicyDecider.decide env failOpen outcome = .error err) ↔ outcome.payload env = some .null) ∧
    (OpaPolicyDecider.decide env failOpen outcome = .ok .allow ↔
      (∃ payload, outcome.payload env = some payload ∧ allowOf payload = some (.bool true)) ∨
        failOpen = true ∧ outcome.payload env = none) ∧
    ((∃ code reason, OpaPolicyDecider.decide env failOpen outcome = .ok (.deny code reason)) ↔
      ∃ payload, outcome.payload env = some payload ∧ allowOf payload = some (.bool false)) ∧
    ((∃ note, OpaPolicyDecider.decide env failOpen outcome = .ok (.indeterminate note)) ↔
      (∃ payload, outcome.payload env = some payload ∧ payload ≠ .null ∧
        ∀ b, allowOf payload ≠ some (.bool b)) ∨
      failOpen = false ∧ outcome.payload env = none) := by
  rw [OpaPolicyDecider.decide_eq]
  cases outcome.payload env with
  | none => cases failOpen <;> simp [onError]
  | some payload =>
    by_cases hn : payload = .null
    · subst hn
      simp [interpretOpa, allowOf, Json.member]
    · obtain ⟨decision, hd, ho⟩ := interpretOpa_of hn
      cases decision <;> simp_all [OpaDecision.Of]

def decodeAscii (bytes : List UInt8) : String := String.ofList (bytes.map fun b => Char.ofNat b.toNat)

/-- OPA answers with 200 and the text `null`. -/
theorem opa_null_throws :
    OpaPolicyDecider.decide ⟨decodeAscii, fun text => ⟨none, text⟩⟩ false (.response 200 [110, 117, 108, 108]) =
      .error ⟨"Cannot read properties of null (reading 'result')"⟩ := rfl

end AcdpControlPlane.Policy
