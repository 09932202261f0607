import AcdpControlPlane.Common.Js

/-!
# JSON texts

`JSON.parse` as a reader of characters. A lexer cuts the text into tokens, a machine with a stack
of open containers reads the tokens, and the members of an object that repeat a name are collapsed
to the last one. The tree before the last step, `syntaxTree`, still has every member the text has.
Both passes look at each character, or token, once.
-/

namespace AcdpControlPlane

namespace JsonText

/-! ## Tokens -/

/-- A token; `lit` is `null`, a boolean or a number. -/
inductive Token where
  | openBrace
  | closeBrace
  | openBracket
  | closeBracket
  | colon
  | comma
  | str (s : String)
  | lit (v : Json)

def isWhitespace (c : Char) : Bool := c == ' ' || c == '\t' || c == '\n' || c == '\r'

/-- The characters of the words `null`, `true`, `false` and of numerals. -/
def isWordChar (c : Char) : Bool := c.isAlphanum || c == '+' || c == '-' || c == '.'

def punctuation? (c : Char) : Option Token :=
  match c with
  | '\x7b' => some .openBrace
  | '\x7d' => some .closeBrace
  | '[' => some .openBracket
  | ']' => some .closeBracket
  | ':' => some .colon
  | ',' => some .comma
  | _ => none

/-! ### Numerals -/

def isExponent : List Char → Bool
  | [] => true
  | c :: cs =>
    let digits := if cs.head? = some '+' ∨ cs.head? = some '-' then cs.tail else cs
    (c == 'e' || c == 'E') && !digits.isEmpty && digits.all Char.isDigit

def isFraction : List Char → Bool
  | '.' :: cs => !(cs.takeWhile Char.isDigit).isEmpty && isExponent (cs.dropWhile Char.isDigit)
  | cs => isExponent cs

/-- The grammar of numbers: no leading zero, no leading plus. -/
def isNumeral (w : List Char) : Bool :=
  let w := if w.head? = some '-' then w.tail else w
  let whole := w.takeWhile Char.isDigit
  (whole == ['0'] || (!whole.isEmpty && whole.head? != some '0')) &&
    isFraction (w.dropWhile Char.isDigit)

/-! ### Strings -/

/-- The code unit of a two-character escape. -/
def unescape? (c : Char) : Option ℕ :=
  match c with
  | '"' => some 0x22
  | '\\' => some 0x5c
  | '/' => some 0x2f
  | 'b' => some 0x08
  | 'f' => some 0x0c
  | 'n' => some 0x0a
  | 'r' => some 0x0d
  | 't' => some 0x09
  | _ => none

def hexDigitValue? (c : Char) : Option ℕ :=
  if c.isDigit then some (c.toNat - 0x30)
  else if 'a' ≤ c ∧ c ≤ 'f' then some (c.toNat - 0x57)
  else if 'A' ≤ c ∧ c ≤ 'F' then some (c.toNat - 0x37)
  else none

def unitChar (u : ℕ) : Char := if 0xd800 ≤ u ∧ u < 0xe000 then '\ufffd' else Char.ofNat u

/-- The characters of a sequence of units: a high and a low surrogate are one character. -/
def decodeUnits : List ℕ → List Char
  | [] => []
  | [u] => [unitChar u]
  | u :: l :: units =>
    if (0xd800 ≤ u ∧ u < 0xdc00) ∧ (0xdc00 ≤ l ∧ l < 0xe000) then
      Char.ofNat (0x10000 + (u - 0xd800) * 0x400 + (l - 0xdc00)) :: decodeUnits units
    else unitChar u :: decodeUnits (l :: units)

/-! ### The lexer -/

/-- Where the lexer is: between tokens, in a string, after its backslash, among the digits of a
`\u` escape, or in a word. -/
inductive Mode where
  | between
  | text (units : List ℕ)
  | escape (units : List ℕ)
  | unicode (units digits : List ℕ)
  | word (chars : List Char)

section Lexer

variable (number : String → JsNumber)

def readWord (w : List Char) : Option Token :=
  if w = "null".toList then some (.lit .null)
  else if w = "true".toList then some (.lit (.bool true))
  else if w = "false".toList then some (.lit (.bool false))
  else if isNumeral w then some (.lit (.num (number (String.ofList w))))
  else none

/-- A character between tokens; `next` reads the rest of the text. -/
def lexBetween (c : Char) (next : Mode → Option (List Token)) : Option (List Token) :=
  if isWhitespace c then next .between
  else if c = '"' then next (.text [])
  else if isWordChar c then next (.word [c])
  else
    match punctuation? c with
    | some t => (next .between).map (t :: ·)
    | none => none

def lexChar (c : Char) (next : Mode → Option (List Token)) : Mode → Option (List Token)
  | .between => lexBetween c next
  | .word w =>
    -- a word ends at the first character that cannot belong to it
    if isWordChar c then next (.word (w ++ [c]))
    else (readWord number w).bind fun t => (lexBetween c next).map (t :: ·)
  | .text units =>
    if c = '"' then (next .between).map (.str (String.ofList (decodeUnits units)) :: ·)
    else if c = '\\' then next (.escape units)
    else if c.toNat < 0x20 then none
    else next (.text (units ++ [c.toNat]))
  | .escape units =>
    if c = 'u' then next (.unicode units [])
    else
      match unescape? c with
      | some u => next (.text (units ++ [u]))
      | none => none
  | .unicode units digits =>
    match hexDigitValue? c with
    | none => none
    | some d =>
      if digits.length = 3 then next (.text (units ++ [(digits ++ [d]).foldl (16 * · + ·) 0]))
      else next (.unicode units (digits ++ [d]))

def lex : List Char → Mode → Option (List Token)
  | [], .between => some []
  | [], .word w => (readWord number w).map ([·])
  | [], _ => none
  | c :: cs, mode => lexChar number c (lex cs) mode

end Lexer

/-! ## The machine -/

/-- A container part way through: what it holds already, and the name of the member whose value is
awaited. -/
inductive Frame where
  | elements (done : List Json)
  | members (done : List (String × Json)) (name : String)

inductive Phase where
  | value
  | firstElement
  | firstMember
  | name (done : List (String × Json))
  | colon (done : List (String × Json)) (name : String)
  | complete (v : Json)

def startValue (stack : List Frame) : Token → Option (Phase × List Frame)
  | .lit v => some (.complete v, stack)
  | .str s => some (.complete (.str s), stack)
  | .openBracket => some (.firstElement, stack)
  | .openBrace => some (.firstMember, stack)
  | _ => none

def startName (done : List (String × Json)) (stack : List Frame) :
    Token → Option (Phase × List Frame)
  | .str s => some (.colon done s, stack)
  | _ => none

def step : Phase × List Frame → Token → Option (Phase × List Frame)
  | (.value, stack), t => startValue stack t
  | (.firstElement, stack), .closeBracket => some (.complete (.arr []), stack)
  | (.firstElement, stack), t => startValue (.elements [] :: stack) t
  | (.firstMember, stack), .closeBrace => some (.complete (.obj []), stack)
  | (.firstMember, stack), t => startName [] stack t
  | (.name done, stack), t => startName done stack t
  | (.colon done name, stack), .colon => some (.value, .members done name :: stack)
  | (.complete v, .elements done :: stack), .comma =>
    some (.value, .elements (done ++ [v]) :: stack)
  | (.complete v, .elements done :: stack), .closeBracket =>
    some (.complete (.arr (done ++ [v])), stack)
  | (.complete v, .members done name :: stack), .comma =>
    some (.name (done ++ [(name, v)]), stack)
  | (.complete v, .members done name :: stack), .closeBrace =>
    some (.complete (.obj (done ++ [(name, v)])), stack)
  | _, _ => none

def read : List Token → Phase × List Frame → Option Json
  | [], (.complete v, []) => some v
  | [], _ => none
  | t :: ts, s => (step s t).bind (read ts)

end JsonText

def syntaxTree (number : String → JsNumber) (text : String) : Option Json :=
  (JsonText.lex number text.toList .between).bind fun ts => JsonText.read ts (.value, [])

/-! ## Repeated members -/

/-- Set a member: a repeated name keeps its place and takes the new value. -/
def setMember (o : List (String × Json)) (k : String) (v : Json) : List (String × Json) :=
  if k ∈ o.map Prod.fst then o.map fun m => if m.1 = k then (k, v) else m else o ++ [(k, v)]

def lastMember (o : List (String × Json)) (k : String) : Option Json := o.reverse.lookup k

namespace Json

mutual

/-- The value with the last of repeated members, at every depth. -/
def collapse : Json → Json
  | null => null
  | bool b => bool b
  | num n => num n
  | str s => str s
  | arr es => arr (collapseElements es)
  | obj o => obj ((collapseMembers o).foldl (fun acc m => setMember acc m.1 m.2) [])

def collapseElements : List Json → List Json
  | [] => []
  | e :: es => collapse e :: collapseElements es

def collapseMembers : List (String × Json) → List (String × Json)
  | [] => []
  | (k, v) :: o => (k, collapse v) :: collapseMembers o

end

end Json

/-- The conversion `JSON.parse(text)`; `none` when it throws. -/
def parseJson (number : String → JsNumber) (text : String) : Option Json :=
  (syntaxTree number text).map Json.collapse

section Collapse

theorem lookup_cons_member (m : String × Json) (o : List (String × Json)) (k : String) :
    (m :: o).lookup k = if k = m.1 then some m.2 else o.lookup k := by
  rw [List.lookup_cons]
  by_cases hk : k = m.1
  · simp [hk]
  · simp [hk, beq_false_of_ne hk]

theorem lookup_overwrite_of_ne {k k' : String} (hk : k' ≠ k) (o : List (String × Json)) (v : Json) :
    (o.map fun m => if m.1 = k then (k, v) else m).lookup k' = o.lookup k' := by
  induction o with
  | nil => rfl
  | cons m o ih =>
    rw [List.map_cons, lookup_cons_member, lookup_cons_member, ih]
    by_cases hm : m.1 = k
    · simp [hm, hk]
    · simp [hm]

theorem lookup_overwrite_self {k : String} {o : List (String × Json)} (hk : k ∈ o.map Prod.fst)
    (v : Json) : (o.map fun m => if m.1 = k then (k, v) else m).lookup k = some v := by
  induction o with
  | nil => simp at hk
  | cons m o ih =>
    rw [List.map_cons, lookup_cons_member]
    by_cases hm : m.1 = k
    · simp [hm]
    · have hr : k ∈ o.map Prod.fst := by simpa [Ne.symm hm] using hk
      simp only [hm, if_false, Ne.symm hm, ih hr]

theorem lookup_setMember (o : List (String × Json)) (k k' : String) (v : Json) :
    (setMember o k v).lookup k' = if k' = k then some v else o.lookup k' := by
  unfold setMember
  by_cases hme : k ∈ o.map Prod.fst
  · rw [if_pos hme]
    by_cases hk : k' = k
    · rw [if_pos hk, hk, lookup_overwrite_self hme]
    · rw [if_neg hk, lookup_overwrite_of_ne hk]
  · rw [if_neg hme, List.lookup_append, lookup_cons_member]
    by_cases hk : k' = k
    · have hn : o.lookup k = none := by
        rw [List.lookup_eq_none_iff]
        intro m hm
        rw [bne_iff_ne]
        rintro rfl
        exact hme (List.mem_map_of_mem hm)
      simp [hk, hn]
    · simp [hk]

theorem lookup_foldl_setMember (o acc : List (String × Json)) (k : String) :
    (o.foldl (fun acc m => setMember acc m.1 m.2) acc).lookup k =
      (lastMember o k).or (acc.lookup k) := by
  induction o generalizing acc with
  | nil => simp [lastMember]
  | cons m o ih =>
    rw [List.foldl_cons, ih, lookup_setMember, lastMember, lastMember, List.reverse_cons,
      List.lookup_append, lookup_cons_member]
    by_cases hk : k = m.1
    · cases o.reverse.lookup k <;> simp [hk]
    · cases o.reverse.lookup k <;> simp [hk]

theorem collapseMembers_eq_map (o : List (String × Json)) :
    Json.collapseMembers o = o.map fun m => (m.1, m.2.collapse) := by
  induction o with
  | nil => rfl
  | cons m o ih => rw [Json.collapseMembers, ih, List.map_cons]

theorem lastMember_map (o : List (String × Json)) (f : Json → Json) (k : String) :
    lastMember (o.map fun m => (m.1, f m.2)) k = (lastMember o k).map f := by
  rw [lastMember, lastMember, ← List.map_reverse]
  induction o.reverse with
  | nil => rfl
  | cons m o ih =>
    rw [List.map_cons, lookup_cons_member, lookup_cons_member, ih]
    by_cases hk : k = m.1
    · simp [hk]
    · simp [hk]

theorem get_collapse (o : List (String × Json)) (k : String) :
    (Json.collapse (.obj o)).member k = (lastMember o k).map Json.collapse := by
  rw [Json.collapse, Json.member, Json.get, lookup_foldl_setMember, collapseMembers_eq_map,
    lastMember_map]
  simp

end Collapse

end AcdpControlPlane
