import Mathlib

/-!
# JavaScript values the control plane reads

Registry responses reach the control plane through `JSON.parse`, and the parsers inspect them with
`typeof`, `Object.keys` and `String(…)`. Numbers are doubles: an integer arrives with its exact
value, and arithmetic on it is rounded.
-/

namespace AcdpControlPlane

structure JsError where
  message : String
deriving DecidableEq, Repr

structure NativeError where
  code : Option String
  message : String
deriving DecidableEq, Repr

def errMsg (err : NativeError) : String :=
  match err.code with
  | some code => code ++ ": " ++ err.message
  | none => err.message

/-- A JavaScript number: its value when `Number.isInteger` holds of it, and its text. -/
structure JsNumber where
  int? : Option Int
  text : String
deriving DecidableEq, Repr

namespace JsNumber

/-- The integer `n`. -/
def ofNat (n : ℕ) : JsNumber := ⟨some n, toString n⟩

instance : Coe ℕ JsNumber := ⟨ofNat⟩

instance (n : ℕ) : OfNat JsNumber n := ⟨ofNat n⟩

@[simp] theorem ofNat_int? (n : ℕ) : (ofNat n).int? = some (n : Int) := rfl

/-- The value of a number that passes `Number.isInteger(v) && v >= 0`. -/
def toNat? (v : JsNumber) : Option ℕ :=
  match v.int? with
  | some (.ofNat n) => some n
  | _ => none

end JsNumber

/-- A JSON value. The members of an object have distinct names, in their order. -/
inductive Json where
  | null
  | bool (b : Bool)
  | num (n : JsNumber)
  | str (s : String)
  | arr (elements : List Json)
  | obj (members : List (String × Json))

namespace Json

/-- The member names, `Object.keys(o)`. -/
def keys (o : List (String × Json)) : List String := o.map Prod.fst

/-- The member `o[k]`, or `undefined`. -/
def get (o : List (String × Json)) (k : String) : Option Json := o.lookup k

/-- The string a member holds, or `undefined`: `strOf(o[k])`. -/
def strOf : Option Json → Option String
  | some (.str s) => some s
  | _ => none

mutual

/-- The conversion `String(v)`. An own `toString` member is not callable and hides the inherited
one, and the inherited `valueOf` returns the object itself, so the conversion throws. -/
def toJsString : Json → Except JsError String
  | null => .ok "null"
  | bool b => .ok (toString b)
  | num n => .ok n.text
  | str s => .ok s
  | arr es => (joinElements es).map (String.intercalate ",")
  | obj o =>
    if o.any (·.1 == "toString") then .error ⟨"Cannot convert object to primitive value"⟩
    else .ok "[object Object]"

/-- The elements as `Array.prototype.join` writes them: `null` is empty. -/
def joinElements : List Json → Except JsError (List String)
  | [] => .ok []
  | null :: es => (joinElements es).map ("" :: ·)
  | e :: es => do
    let s ← toJsString e
    let ss ← joinElements es
    return s :: ss

end

/-- The member `v[k]` of a value that is an object; arrays have no named members. -/
def member (v : Json) (k : String) : Option Json :=
  match v with
  | obj o => get o k
  | _ => none

/-- The test `v !== null && typeof v === 'object'`, which arrays pass. -/
def isObjectLike : Option Json → Bool
  | some (.obj _) => true
  | some (.arr _) => true
  | _ => false

/-- A character inside a JSON string. -/
def quoteChar (c : Char) : List Char :=
  match c.toNat with
  | 0x22 => ['\\', '"']
  | 0x5c => ['\\', '\\']
  | 0x08 => ['\\', 'b']
  | 0x09 => ['\\', 't']
  | 0x0a => ['\\', 'n']
  | 0x0c => ['\\', 'f']
  | 0x0d => ['\\', 'r']
  | n =>
    if n < 0x20 then ['\\', 'u', '0', '0', Nat.digitChar (n / 16), Nat.digitChar (n % 16)]
    else [c]

def quote (s : String) : String := String.ofList ('"' :: s.toList.flatMap quoteChar ++ ['"'])

mutual

/-- The text `JSON.stringify(v)`. A number beyond the doubles was read as infinite and is written
as `null`. -/
def stringify : Json → String
  | null => "null"
  | bool b => toString b
  | num n => if n.text = "Infinity" ∨ n.text = "-Infinity" then "null" else n.text
  | str s => quote s
  | arr es => "[" ++ String.intercalate "," (stringifyElements es) ++ "]"
  | obj o => "\x7b" ++ String.intercalate "," (stringifyMembers o) ++ "\x7d"

def stringifyElements : List Json → List String
  | [] => []
  | e :: es => stringify e :: stringifyElements es

def stringifyMembers : List (String × Json) → List String
  | [] => []
  | (k, v) :: o => (quote k ++ ":" ++ stringify v) :: stringifyMembers o

end

end Json

/-! ## Numbers -/

/-- The nearest double to `n`, ties to even. -/
def roundToDouble (n : ℕ) : ℕ :=
  let e := n.log2 + 1 - 53
  let q := n / 2 ^ e
  let r := n % 2 ^ e
  if 2 * r < 2 ^ e ∨ (2 * r = 2 ^ e ∧ q % 2 = 0) then q * 2 ^ e else (q + 1) * 2 ^ e

/-- An operand of `&`: the bits of its `ToInt32`. -/
def toInt32 (n : ℕ) : BitVec 32 := BitVec.ofNat 32 n

theorem roundToDouble_of_lt {n : ℕ} (hn : n < 2 ^ 53) : roundToDouble n = n := by
  have hl : n.log2 + 1 - 53 = 0 := by
    rcases Nat.eq_zero_or_pos n with rfl | hp
    · rfl
    · have := (Nat.log2_lt (by omega)).mpr hn
      omega
  unfold roundToDouble
  rw [hl]
  simp [Nat.mod_one]

/-! ## Text -/

/-- The test `s.startsWith(p)`. -/
def startsWith (s p : String) : Bool := p.toList.isPrefixOf s.toList

/-- The test `s.includes(c)`, for a single character. -/
def includesChar (s : String) (c : Char) : Bool := s.toList.contains c

/-- The characters that `encodeURIComponent` keeps. -/
def isUriUnreserved (c : Char) : Bool := c.isAlphanum || "-_.!~*'()".toList.contains c

/-- A byte as `%XX`. -/
def percentEncode (b : UInt8) : List Char :=
  ['%', (Nat.digitChar (b.toNat / 16)).toUpper, (Nat.digitChar (b.toNat % 16)).toUpper]

/-- The text `encodeURIComponent(s)`: the UTF-8 bytes of every other character are escaped. -/
def encodeURIComponent (s : String) : String :=
  String.ofList (s.toList.flatMap fun c =>
    if isUriUnreserved c then [c] else (String.utf8EncodeChar c).flatMap percentEncode)

def truthy : Option String → Option String
  | some s => if s ≠ "" then some s else none
  | none => none

theorem truthy_eq_some_iff {s? : Option String} {s : String} :
    truthy s? = some s ↔ s? = some s ∧ s ≠ "" := by
  cases s? with
  | none => simp [truthy]
  | some s' =>
    simp only [truthy, ne_eq, ite_not, Option.some.injEq]
    split
    · next hem => simp [hem, eq_comm]
    · next hn =>
      refine ⟨fun h => ?_, fun h => congrArg some h.1⟩
      cases h
      exact ⟨rfl, hn⟩

/-- The DID URL without its `#fragment`. -/
def stripFragment (didUrl : String) : String :=
  String.ofList (didUrl.toList.takeWhile (· ≠ '#'))

/-- The URL without a trailing slash: `url.replace(/\/$/, '')`. -/
def trimSlash (url : String) : String :=
  if url.toList.getLast? = some '/' then String.ofList url.toList.dropLast else url

/-- The sorted member names, `Object.keys(o).sort().join(',')`. -/
def sortedKeys (o : List (String × Json)) : String :=
  String.intercalate "," ((Json.keys o).insertionSort (· ≤ ·))

end AcdpControlPlane
