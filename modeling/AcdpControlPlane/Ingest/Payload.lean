import AcdpControlPlane.Common.DidAuthority

/-!
# The payload of a webhook

What `src/ingest/ingest.service.ts` does with the text of a delivery before and after it is parsed: the
scan of its nesting depth, and the readings of its members. A payload is any object that `JSON.parse`
returns; its members may have any type, whatever `AcdpWebhookEvent` says.
-/

namespace AcdpControlPlane

namespace Json

/-- The test of `if (v)` and `v || …`. -/
def isTruthy : Option Json → Bool
  | none => false
  | some .null => false
  | some (.bool b) => b
  | some (.num n) => n.int? != some 0
  | some (.str s) => s != ""
  | some (.arr _) => true
  | some (.obj _) => true

/-- The value `v ?? undefined`. -/
def nullish : Option Json → Option Json
  | some .null => none
  | v => v

theorem eq_some_of_nullish {v : Option Json} {w : Json} (h : nullish v = some w) : v = some w := by
  unfold nullish at h
  split at h
  · cases h
  · exact h

/-- The members after `o[k] = value`: a member keeps its place, a new one comes last. -/
def setIn (k : String) (value : Json) : List (String × Json) → List (String × Json)
  | [] => [(k, value)]
  | m :: o => if m.1 = k then (k, value) :: o else m :: setIn k value o

/-- The assignment `v[k] = value`. -/
def setMember (v : Json) (k : String) (value : Json) : Json :=
  match v with
  | obj o => .obj (setIn k value o)
  | v => v

theorem lookup_setIn (k k' : String) (value : Json) (o : List (String × Json)) :
    (setIn k value o).lookup k' = if k' = k then some value else o.lookup k' := by
  have hn : k' ≠ k → (k' == k) = false := by simp
  induction o with
  | nil =>
    by_cases h : k' = k
    · simp [setIn, h]
    · simp [setIn, List.lookup, h, hn h]
  | cons m o ih =>
    by_cases hm : m.1 = k
    · by_cases h : k' = k
      · simp [setIn, hm, h]
      · simp [setIn, List.lookup, hm, h, hn h]
    · simp only [setIn, if_neg hm, List.lookup]
      cases hb : k' == m.1 with
      | true =>
        -- the member before the assigned one
        have hk : k' ≠ k := by
          rintro rfl
          exact hm (beq_iff_eq.mp hb).symm
        simp [hk]
      | false => exact ih

@[simp] theorem member_setMember (o : List (String × Json)) (k : String) (value : Json) :
    (setMember (.obj o) k value).member k = some value := by
  simp [setMember, member, get, lookup_setIn]

theorem member_setMember_of_ne (v : Json) {k k' : String} (value : Json) (hn : k' ≠ k) :
    (v.setMember k value).member k' = v.member k' := by
  cases v with
  | obj o => simp [setMember, member, get, lookup_setIn, hn]
  | _ => rfl

end Json

/-! ## The depth of a text -/

/-- The position of the scan: the depth, and whether it is in a string and after a backslash. -/
structure DepthScan where
  depth : ℕ
  inString : Bool
  escaped : Bool
deriving DecidableEq, Repr

/-- One character of the scan, or the answer that the text is too deep. -/
def DepthScan.step (maxDepth : ℕ) (scan : DepthScan) (c : Char) : Option DepthScan :=
  if scan.inString then
    if scan.escaped then some { scan with escaped := false }
    else if c = '\\' then some { scan with escaped := true }
    else if c = '"' then some { scan with inString := false }
    else some scan
  else if c = '"' then some { scan with inString := true }
  else if c = '\x7b' ∨ c = '[' then
    if maxDepth < scan.depth + 1 then none else some { scan with depth := scan.depth + 1 }
  else if c = '\x7d' ∨ c = ']' then some { scan with depth := scan.depth - 1 }
  else some scan

/-- Whether brackets outside of strings are nested deeper than the limit. -/
def exceedsJsonDepth (text : String) (maxDepth : ℕ) : Bool :=
  (text.toList.foldlM (DepthScan.step maxDepth) ⟨0, false, false⟩).isNone

/-! ## The authority of a context -/

/-- The authority of a context URI, when it is shaped like one. -/
def extractAuthorityFromCtxId (ctxId : Option Json) : Option String :=
  match ctxId with
  | some (.str s) =>
    if startsWith s "acdp://" then
      truthy (some (String.ofList ((s.toList.drop 7).takeWhile (· ≠ '/'))))
    else none
  | _ => none

end AcdpControlPlane
