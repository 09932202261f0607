import AcdpControlPlane.Common.Cut
import AcdpControlPlane.Common.DidAuthority
import AcdpControlPlane.Common.Separated
import AcdpControlPlane.Common.Throwing

/-!
# Quota configuration

The parser of `TENANT_QUOTAS`, as `src/quota/quota-config.ts` has it: blocks `tenant:entry,entry`
separated by semicolons, with entries `action=count/window`. A later block of a tenant replaces the
earlier one as a whole, and the table of windows is an object, which has inherited members.
-/

namespace AcdpControlPlane.Quota

open Throwing

/-! ## The parser -/

/-- A `QuotaAction`, or `*`. -/
inductive Action where
  | publish
  | runStart
  | capabilityDeclare
  | tokenIssue
  | any
deriving DecidableEq, Repr

def Action.text : Action → String
  | .publish => "publish"
  | .runStart => "run.start"
  | .capabilityDeclare => "capability.declare"
  | .tokenIssue => "token.issue"
  | .any => "*"

def VALID_ACTIONS : List Action := [.publish, .runStart, .capabilityDeclare, .tokenIssue, .any]

/-- A member of the table of windows: a number of seconds, or what every object inherits. -/
inductive Window where
  | seconds (n : ℕ)
  | inherited (name : String)
deriving DecidableEq, Repr

/-- The members of `Object.prototype`. -/
def OBJECT_PROTOTYPE : List String :=
  ["constructor", "__defineGetter__", "__defineSetter__", "hasOwnProperty", "__lookupGetter__",
    "__lookupSetter__", "isPrototypeOf", "propertyIsEnumerable", "toString", "valueOf", "__proto__",
    "toLocaleString"]

/-- The member `WINDOW_SECONDS[name]`. -/
def WINDOW_SECONDS (name : String) : Option Window :=
  match name with
  | "sec" => some (.seconds 1)
  | "min" => some (.seconds 60)
  | "hour" => some (.seconds 3600)
  | _ => if name ∈ OBJECT_PROTOTYPE then some (.inherited name) else none

structure QuotaLimit where
  count : Int
  windowSeconds : Window
deriving DecidableEq, Repr

abbrev TenantLimits := Action → Option QuotaLimit

abbrev ParsedQuotaConfig := String → Option TenantLimits

/-- `s.split(sep).map((s) => s.trim()).filter(Boolean)`. -/
def pieces (sep : Char) (s : String) : List String :=
  ((Separated.split s sep).map jsTrim).filter (· ≠ "")

/-- The trimmed texts before and after the first separator, unless it is missing or comes first. -/
def halves (sep : Char) (s : String) : Option (String × String) :=
  match Cut.atFirst sep s.toList with
  | some (c :: before, after) =>
    some (jsTrim (String.ofList (c :: before)), jsTrim (String.ofList after))
  | _ => none

section Parser

variable (number : String → JsNumber)

/-- One entry of a tenant; `number` is the conversion `Number(…)`. -/
def parseLimitEntry (entry tenantId : String) : Except JsError (Action × QuotaLimit) :=
  let where_ := "TENANT_QUOTAS entry '" ++ entry ++ "' for tenant '" ++ tenantId ++ "'"
  match halves '=' entry with
  | none => .error ⟨where_ ++ " missing 'action=count/window'"⟩
  | some (name, rate) =>
    match VALID_ACTIONS.find? (·.text = name) with
    | none => .error ⟨where_ ++ ": unknown action '" ++ name ++ "'. Allowed: " ++
        String.intercalate ", " (VALID_ACTIONS.map Action.text)⟩
    | some action =>
      match halves '/' rate with
      | none => .error ⟨where_ ++ ": rate must be 'count/window' (got '" ++ rate ++ "')"⟩
      | some (countStr, windowStr) =>
        match (number countStr).int? with
        | some count =>
          if count ≤ 0 then .error ⟨where_ ++ ": count must be a positive integer"⟩
          else
            match WINDOW_SECONDS windowStr with
            | none => .error ⟨where_ ++ ": window must be one of sec, min, hour"⟩
            | some windowSeconds => .ok (action, ⟨count, windowSeconds⟩)
        | none => .error ⟨where_ ++ ": count must be a positive integer"⟩

/-- One block: its tenant and its entries. -/
def parseBlock (block : String) : Except JsError (String × List (Action × QuotaLimit)) :=
  match halves ':' block with
  | none => .error ⟨"TENANT_QUOTAS block '" ++ block ++ "' missing 'tenantId:' prefix"⟩
  | some (tenantId, limits) =>
    if tenantId = "" ∨ limits = "" then
      .error ⟨"TENANT_QUOTAS block '" ++ block ++ "' has empty tenantId or limits"⟩
    else do
      let entries ← (pieces ',' limits).mapM (parseLimitEntry number · tenantId)
      return (tenantId, entries)

def parseBlocks (raw : String) : Except JsError (List (String × List (Action × QuotaLimit))) :=
  if jsTrim raw = "" then .ok [] else (pieces ';' raw).mapM (parseBlock number)

/-- The assignments `limits[action] = limit`, in order. -/
def tenantLimits (entries : List (Action × QuotaLimit)) : TenantLimits :=
  entries.foldl (fun limits entry => Function.update limits entry.1 (some entry.2)) fun _ => none

/-- The blocks are stored in order, each in the place of what its tenant had. -/
def byTenant (blocks : List (String × List (Action × QuotaLimit))) : ParsedQuotaConfig :=
  blocks.foldl (fun config block => Function.update config block.1 (some (tenantLimits block.2)))
    fun _ => none

def parseQuotaConfig (raw : String) : Except JsError ParsedQuotaConfig :=
  (parseBlocks number raw).map byTenant

end Parser

def resolveLimit (config : ParsedQuotaConfig) (tenantId : String) (action : Action) :
    Option QuotaLimit :=
  (config tenantId).bind fun limits => (limits action).or (limits .any)

/-! ## What is in effect -/

/-- The last entry for a tenant and an action. -/
def lastEntry (blocks : List (String × List (Action × QuotaLimit))) (tenantId : String)
    (action : Action) : Option QuotaLimit :=
  (((blocks.filter (·.1 = tenantId)).flatMap Prod.snd).reverse.find? (·.1 = action)).map Prod.snd

variable {number : String → JsNumber} {raw : String}
  {blocks : List (String × List (Action × QuotaLimit))}

theorem foldl_update_apply {α K V : Type} [DecidableEq K] (k : α → K) (v : α → V) (xs : List α)
    (m : K → V) (a : K) : xs.foldl (fun m x => Function.update m (k x) (v x)) m a =
      ((xs.reverse.find? (k · = a)).map v).getD (m a) := by
  induction xs generalizing m with
  | nil => rfl
  | cons x xs ih =>
    rw [List.foldl_cons, ih, List.reverse_cons, List.find?_append, Function.update_apply]
    cases xs.reverse.find? (k · = a) with
    | some => rfl
    | none => by_cases hx : k x = a <;> simp [hx, Ne.symm]

theorem tenantLimits_apply (entries : List (Action × QuotaLimit)) (action : Action) :
    tenantLimits entries action = (entries.reverse.find? (·.1 = action)).map Prod.snd := by
  rw [tenantLimits, foldl_update_apply]
  cases entries.reverse.find? (·.1 = action) <;> rfl

/-- With one block for each tenant, what is stored for an action is its last entry. -/
theorem byTenant_bind (hnd : (blocks.map Prod.fst).Nodup) (tenantId : String) (action : Action) :
    (byTenant blocks tenantId).bind (· action) = lastEntry blocks tenantId action := by
  rw [byTenant, foldl_update_apply, ← List.head?_filter, List.filter_reverse, lastEntry]
  have hn := hnd.sublist (List.filter_sublist.map Prod.fst : ((blocks.filter
    (·.1 = tenantId)).map Prod.fst).Sublist _)
  have hk : ∀ block ∈ blocks.filter (·.1 = tenantId), block.1 = tenantId := by simp
  generalize blocks.filter (·.1 = tenantId) = own at hn hk ⊢
  match own with
  | [] => rfl
  | [block] => simp [tenantLimits_apply]
  | block :: block' :: rest =>
    simp only [List.forall_mem_cons] at hk
    simp [hk.1, hk.2.1] at hn

theorem exists_of_mem_mapM {α β ε : Type} {f : α → Except ε β} {xs : List α} {ys : List β}
    (h : xs.mapM f = .ok ys) : ∀ y ∈ ys, ∃ x, f x = .ok y := by
  induction xs generalizing ys with
  | nil =>
    cases h
    simp
  | cons x xs ih =>
    rw [List.mapM_cons] at h
    obtain ⟨y, hy, h⟩ := bind_eq_ok.mp h
    obtain ⟨ys', hys, h⟩ := bind_eq_ok.mp h
    cases h
    exact List.forall_mem_cons.mpr ⟨⟨x, hy⟩, ih hys⟩

theorem limit_of_parseLimitEntry {entry tenantId : String} {parsed : Action × QuotaLimit}
    (h : parseLimitEntry number entry tenantId = .ok parsed) :
    0 < parsed.2.count ∧ ∃ name, WINDOW_SECONDS name = some parsed.2.windowSeconds := by
  unfold parseLimitEntry at h
  dsimp only at h
  split at h
  · cases h
  split at h
  · cases h
  split at h
  · cases h
  split at h
  · obtain ⟨hc, h⟩ := ite_error_eq_ok.mp h
    split at h
    · cases h
    · next hw =>
      cases h
      exact ⟨by simpa using hc, _, hw⟩
  · cases h

theorem limit_of_parseBlocks (h : parseBlocks number raw = .ok blocks) :
    ∀ block ∈ blocks, ∀ entry ∈ block.2,
      0 < entry.2.count ∧ ∃ name, WINDOW_SECONDS name = some entry.2.windowSeconds := by
  unfold parseBlocks at h
  split at h
  · cases h
    simp
  intro block hb entry he
  obtain ⟨text, ht⟩ := exists_of_mem_mapM h block hb
  unfold parseBlock at ht
  split at ht
  · cases ht
  · obtain ⟨-, ht⟩ := ite_error_eq_ok.mp ht
    obtain ⟨entries, hes, ht⟩ := bind_eq_ok.mp ht
    cases ht
    obtain ⟨text, ht⟩ := exists_of_mem_mapM hes entry he
    exact limit_of_parseLimitEntry ht

theorem window_of_own {name : String} {window : Window} (h : WINDOW_SECONDS name = some window)
    (ho : ∀ name, window ≠ .inherited name) :
    window ∈ [Window.seconds 1, .seconds 60, .seconds 3600] := by
  unfold WINDOW_SECONDS at h
  split at h
  · simp_all
  · simp_all
  · simp_all
  · split at h
    · cases h
      exact absurd rfl (ho _)
    · cases h

/-- The numerals of the samples. -/
def sampleNumber (text : String) : JsNumber := if text = "5" then 5 else 1

def sampleBlocks : List (String × List (Action × QuotaLimit)) :=
  [("a", [(.publish, ⟨5, .seconds 60⟩), (.any, ⟨1, .seconds 3600⟩)])]

end AcdpControlPlane.Quota
