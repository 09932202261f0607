import AcdpControlPlane.Common.JsonText

/-!
# The round trip through JSON text

`JSON.stringify` writes a text whose tokens are those of the value, and the machine reads them back.
The two halves meet in `tokens`: each is an induction over the value that says what a value does in
front of an arbitrary rest, so containers compose from their parts.
-/

namespace AcdpControlPlane

open List Json

namespace JsonText

mutual

def tokens : Json → List Token
  | .str s => [.str s]
  | .arr es => .openBracket :: (elementTokens es ++ [.closeBracket])
  | .obj o => .openBrace :: (memberTokens o ++ [.closeBrace])
  | .null => [.lit .null]
  | .bool b => [.lit (.bool b)]
  | .num n => [.lit (.num n)]

def elementTokens : List Json → List Token
  | [] => []
  | [e] => tokens e
  | e :: e' :: es => tokens e ++ .comma :: elementTokens (e' :: es)

def memberTokens : List (String × Json) → List Token
  | [] => []
  | [(k, v)] => .str k :: .colon :: tokens v
  | (k, v) :: m :: o => .str k :: .colon :: (tokens v ++ .comma :: memberTokens (m :: o))

end

/-! ## Reading the tokens of a value -/

section Read

theorem read_tokens_firstElement (v : Json) (rest : List Token) (stack : List Frame) :
    read (tokens v ++ rest) (.firstElement, stack) =
      read (tokens v ++ rest) (.value, .elements [] :: stack) := by
  cases v <;> simp [tokens, read, step]

theorem read_elementTokens_first {es : List Json} (hn : es ≠ []) (rest : List Token)
    (stack : List Frame) :
    read (elementTokens es ++ rest) (.firstElement, stack) =
      read (elementTokens es ++ rest) (.value, .elements [] :: stack) := by
  match es, hn with
  | [e], _ => exact read_tokens_firstElement e rest stack
  | e :: e' :: es, _ =>
    rw [elementTokens, append_assoc]
    exact read_tokens_firstElement e _ stack

theorem read_memberTokens_first {o : List (String × Json)} (hn : o ≠ []) (rest : List Token)
    (stack : List Frame) :
    read (memberTokens o ++ rest) (.firstMember, stack) =
      read (memberTokens o ++ rest) (.name [], stack) := by
  match o, hn with
  | [(k, v)], _ => simp [memberTokens, read, step]
  | (k, v) :: m :: o, _ => simp [memberTokens, read, step]

mutual

theorem read_tokens : ∀ (v : Json) (rest : List Token) (stack : List Frame),
    read (tokens v ++ rest) (.value, stack) = read rest (.complete v, stack)
  | .null, rest, stack => by simp [tokens, read, step, startValue]
  | .bool b, rest, stack => by simp [tokens, read, step, startValue]
  | .num n, rest, stack => by simp [tokens, read, step, startValue]
  | .str s, rest, stack => by simp [tokens, read, step, startValue]
  | .arr [], rest, stack => by simp [tokens, elementTokens, read, step, startValue]
  | .arr (e :: es), rest, stack => by
    rw [tokens, List.cons_append, read, step, startValue, Option.bind_some, List.append_assoc,
      read_elementTokens_first (by simp)]
    exact read_elementTokens (e :: es) (by simp) [] rest stack
  | .obj [], rest, stack => by simp [tokens, memberTokens, read, step, startValue]
  | .obj (m :: o), rest, stack => by
    rw [tokens, List.cons_append, read, step, startValue, Option.bind_some, List.append_assoc,
      read_memberTokens_first (by simp)]
    exact read_memberTokens (m :: o) (by simp) [] rest stack

theorem read_elementTokens : ∀ (es : List Json), es ≠ [] → ∀ (done : List Json)
    (rest : List Token) (stack : List Frame),
    read (elementTokens es ++ ([.closeBracket] ++ rest)) (.value, .elements done :: stack) =
      read rest (.complete (.arr (done ++ es)), stack)
  | [], hn, done, rest, stack => absurd rfl hn
  | [e], _, done, rest, stack => by
    rw [elementTokens, read_tokens e]
    simp [read, step]
  | e :: e' :: es, _, done, rest, stack => by
    rw [elementTokens, List.append_assoc, read_tokens e, List.cons_append, read, step,
      Option.bind_some, read_elementTokens (e' :: es) (by simp)]
    simp

theorem read_memberTokens : ∀ (o : List (String × Json)), o ≠ [] → ∀ (done : List (String × Json))
    (rest : List Token) (stack : List Frame),
    read (memberTokens o ++ ([.closeBrace] ++ rest)) (.name done, stack) =
      read rest (.complete (.obj (done ++ o)), stack)
  | [], hn, done, rest, stack => absurd rfl hn
  | [(k, v)], _, done, rest, stack => by
    rw [memberTokens, List.cons_append, List.cons_append, read, step, startName, Option.bind_some,
      read, step, Option.bind_some, read_tokens v]
    simp [read, step]
  | (k, v) :: m :: o, _, done, rest, stack => by
    rw [memberTokens, List.cons_append, List.cons_append, read, step, startName, Option.bind_some,
      read, step, Option.bind_some, List.append_assoc, read_tokens v, List.cons_append, read, step,
      Option.bind_some, read_memberTokens (m :: o) (by simp)]
    simp

end

end Read

/-! ## Lexing the text of a value -/

section Lex

variable (number : String → JsNumber)

def Delimited (rest : List Char) : Prop := ∀ c ∈ rest.head?, isWordChar c = false

theorem lex_word {w : List Char} (hw : ∀ c ∈ w, isWordChar c = true) {rest : List Char}
    (hr : Delimited rest) (acc : List Char) :
    lex number (w ++ rest) (.word acc) =
      (readWord number (acc ++ w)).bind fun t => (lex number rest .between).map (t :: ·) := by
  induction w generalizing acc with
  | nil =>
    cases rest with
    | nil => cases hwo : readWord number acc <;> simp [lex, hwo]
    | cons c rest =>
      have hc : isWordChar c = false := hr c rfl
      simp [lex, lexChar, hc]
  | cons c w ih =>
    have hc : isWordChar c = true := hw c mem_cons_self
    rw [cons_append, lex, lexChar, if_pos hc, ih fun d hd => hw d (mem_cons_of_mem c hd),
      append_assoc, singleton_append]

theorem lex_word_between {w : List Char} (hn : w ≠ []) (hw : ∀ c ∈ w, isWordChar c = true)
    {rest : List Char} (hr : Delimited rest) :
    lex number (w ++ rest) .between =
      (readWord number w).bind fun t => (lex number rest .between).map (t :: ·) := by
  cases w with
  | nil => exact absurd rfl hn
  | cons c w =>
    have hc : isWordChar c = true := hw c mem_cons_self
    have hb : isWhitespace c = false := by
      by_contra hb
      simp only [isWhitespace, Bool.not_eq_false, Bool.or_eq_true, beq_iff_eq] at hb
      rcases hb with ((rfl | rfl) | rfl) | rfl <;> exact absurd hc (by decide)
    have hq : c ≠ '"' := by
      rintro rfl
      exact absurd hc (by decide)
    rw [cons_append, lex, lexChar, lexBetween, if_neg (by simp [hb]), if_neg hq,
      if_pos hc, lex_word number (fun d hd => hw d (mem_cons_of_mem c hd)) hr]
    rfl

/-! ### Strings -/

theorem hexDigitValue?_digitChar {d : ℕ} (hd : d < 16) : hexDigitValue? (Nat.digitChar d) = some d := by
  have hall : ∀ d : Fin 16, hexDigitValue? (Nat.digitChar d) = some d.val := by decide
  exact hall ⟨d, hd⟩

theorem lex_quoteChar (c : Char) (rest : List Char) (units : List ℕ) :
    lex number (Json.quoteChar c ++ rest) (.text units) =
      lex number rest (.text (units ++ [c.toNat])) := by
  unfold quoteChar
  split
  case h_8 hqu hslash hb ht hn hf hr =>
    split
    · next hlow =>
      -- a control character has two leading zeros in its escape
      have hhigh : c.toNat / 16 < 16 := by omega
      have hlow' : c.toNat % 16 < 16 := by omega
      simp only [cons_append, nil_append, lex, lexChar,
        hexDigitValue?_digitChar hhigh, hexDigitValue?_digitChar hlow']
      have hzero : hexDigitValue? '0' = some 0 := by decide
      simp only [hzero]
      simp [Nat.div_add_mod]
    · next hlow =>
      have hne : c ≠ '"' := by
        rintro rfl
        exact hqu rfl
      have hne' : c ≠ '\\' := by
        rintro rfl
        exact hslash rfl
      simp [lex, lexChar, hne, hne', hlow]
  all_goals
    next hcode =>
    rw [hcode]
    rfl

theorem lex_quoteChars (cs rest : List Char) (units : List ℕ) :
    lex number (cs.flatMap Json.quoteChar ++ rest) (.text units) =
      lex number rest (.text (units ++ cs.map Char.toNat)) := by
  induction cs generalizing units with
  | nil => simp
  | cons c cs ih =>
    rw [flatMap_cons, append_assoc, lex_quoteChar, ih, map_cons, append_assoc,
      singleton_append]

theorem unitChar_toNat (c : Char) : unitChar c.toNat = c := by
  have hv := c.valid
  unfold unitChar
  rw [if_neg, Char.ofNat_toNat]
  rcases hv with h | h
  · have : c.toNat < 0xd800 := h
    omega
  · have : 0xdfff < c.toNat := h.1
    omega

theorem decodeUnits_toNat (cs : List Char) : decodeUnits (cs.map Char.toNat) = cs := by
  induction cs with
  | nil => rfl
  | cons c cs ih =>
    cases cs with
    | nil => simp [decodeUnits, unitChar_toNat]
    | cons d cs =>
      have hc : ¬(0xd800 ≤ c.toNat ∧ c.toNat < 0xdc00) := by
        rcases c.valid with h | h
        · have : c.toNat < 0xd800 := h
          omega
        · have : 0xdfff < c.toNat := h.1
          omega
      rw [map_cons, map_cons, decodeUnits, if_neg fun h => hc h.1, unitChar_toNat]
      rw [map_cons] at ih
      rw [ih]

theorem lex_quote (s : String) (rest : List Char) :
    lex number ((Json.quote s).toList ++ rest) .between =
      (lex number rest .between).map (.str s :: ·) := by
  have hopen : ∀ cs, lex number ('"' :: cs) .between = lex number cs (.text []) := fun _ => rfl
  have hclose : ∀ units, lex number ('"' :: rest) (.text units) =
      (lex number rest .between).map (.str (String.ofList (decodeUnits units)) :: ·) := fun _ => rfl
  rw [quote, String.toList_ofList, cons_append, cons_append, hopen,
    append_assoc, lex_quoteChars, singleton_append, hclose, nil_append,
    decodeUnits_toNat, String.ofList_toList]

end Lex

end JsonText

/-! ## Values that survive -/

section Values

variable (number : String → JsNumber)

structure Numeral (n : JsNumber) : Prop where
  ne_nil : n.text.toList ≠ []
  word : ∀ c ∈ n.text.toList, JsonText.isWordChar c = true
  read : JsonText.readWord number n.text.toList = some (.lit (.num n))

mutual

def Json.Numerals : Json → Prop
  | .null => True
  | .bool _ => True
  | .num n => Numeral number n
  | .str _ => True
  | .arr es => NumeralsElements es
  | .obj o => NumeralsMembers o

def Json.NumeralsElements : List Json → Prop
  | [] => True
  | e :: es => Json.Numerals e ∧ NumeralsElements es

def Json.NumeralsMembers : List (String × Json) → Prop
  | [] => True
  | (_, v) :: o => Json.Numerals v ∧ NumeralsMembers o

end

mutual

def Json.Distinct : Json → Prop
  | .null => True
  | .bool _ => True
  | .num _ => True
  | .str _ => True
  | .arr es => DistinctElements es
  | .obj o => (o.map Prod.fst).Nodup ∧ DistinctMembers o

def Json.DistinctElements : List Json → Prop
  | [] => True
  | e :: es => Json.Distinct e ∧ DistinctElements es

def Json.DistinctMembers : List (String × Json) → Prop
  | [] => True
  | (_, v) :: o => Json.Distinct v ∧ DistinctMembers o

end

namespace JsonText

variable {number}

theorem stringify_num {n : JsNumber} (hn : Numeral number n) : Json.stringify (.num n) = n.text := by
  have hf : ¬(n.text = "Infinity" ∨ n.text = "-Infinity") := by
    rintro (ht | ht)
    · have hr := hn.read
      rw [ht] at hr
      exact absurd hr (by simp [readWord, isNumeral, Char.isDigit])
    · have hr := hn.read
      rw [ht] at hr
      exact absurd hr (by simp [readWord, isNumeral, Char.isDigit])
  rw [stringify, if_neg hf]

theorem delimited_cons {c : Char} (hc : isWordChar c = false) (rest : List Char) :
    Delimited (c :: rest) := by
  intro d hd
  obtain rfl : c = d := by simpa using hd
  exact hc

theorem lex_punctuation {c : Char} {t : Token} (hb : isWhitespace c = false) (hq : c ≠ '"')
    (hw : isWordChar c = false) (hm : punctuation? c = some t) (rest : List Char) :
    lex number (c :: rest) .between = (lex number rest .between).map (t :: ·) := by
  rw [lex, lexChar, lexBetween, if_neg (by simp [hb]), if_neg hq, if_neg (by simp [hw]),
    hm]

theorem lex_comma (rest : List Char) :
    lex number (',' :: rest) .between = (lex number rest .between).map (.comma :: ·) :=
  lex_punctuation (by decide) (by decide) (by decide) rfl rest

theorem lex_colon (rest : List Char) :
    lex number (':' :: rest) .between = (lex number rest .between).map (.colon :: ·) :=
  lex_punctuation (by decide) (by decide) (by decide) rfl rest

mutual

theorem lex_stringify : ∀ (v : Json), v.Numerals number → ∀ rest, Delimited rest →
    lex number ((Json.stringify v).toList ++ rest) .between =
      (lex number rest .between).map (tokens v ++ ·)
  | .null, _, rest, hr => by
    have hw := lex_word_between number (w := "null".toList) (by decide)
      (all_eq_true.mp (by decide)) hr
    exact hw
  | .bool true, _, rest, hr => by
    have hw := lex_word_between number (w := "true".toList) (by decide)
      (all_eq_true.mp (by decide)) hr
    exact hw
  | .bool false, _, rest, hr => by
    have hw := lex_word_between number (w := "false".toList) (by decide)
      (all_eq_true.mp (by decide)) hr
    exact hw
  | .num n, hn, rest, hr => by
    rw [Numerals] at hn
    rw [stringify_num hn, lex_word_between number hn.ne_nil hn.word hr, hn.read]
    rfl
  | .str s, _, rest, _ => by
    rw [stringify, lex_quote]
    rfl
  | .arr es, hes, rest, hr => by
    rw [Numerals] at hes
    have hop : ∀ cs, lex number ('[' :: cs) .between =
        (lex number cs .between).map (.openBracket :: ·) :=
      lex_punctuation (by decide) (by decide) (by decide) rfl
    have hc : lex number (']' :: rest) .between =
        (lex number rest .between).map (.closeBracket :: ·) :=
      lex_punctuation (by decide) (by decide) (by decide) rfl rest
    have ht : (stringify (.arr es)).toList ++ rest =
        '[' :: ((String.intercalate "," (stringifyElements es)).toList ++ ']' :: rest) := by
      simp [stringify]
    rw [ht, hop, lex_elements es hes _ (delimited_cons (by decide) rest), hc]
    simp [tokens, Function.comp_def]
  | .obj o, ho, rest, hr => by
    have hop : ∀ cs, lex number ('\x7b' :: cs) .between =
        (lex number cs .between).map (.openBrace :: ·) :=
      lex_punctuation (by decide) (by decide) (by decide) rfl
    have hc : lex number ('\x7d' :: rest) .between =
        (lex number rest .between).map (.closeBrace :: ·) :=
      lex_punctuation (by decide) (by decide) (by decide) rfl rest
    have ht : (stringify (.obj o)).toList ++ rest = '\x7b' ::
        ((String.intercalate "," (stringifyMembers o)).toList ++ '\x7d' :: rest) := by
      simp [stringify]
    rw [ht, hop, lex_members o ho _ (delimited_cons (by decide) rest), hc]
    simp [tokens, Function.comp_def]

theorem lex_elements : ∀ (es : List Json), Json.NumeralsElements number es → ∀ rest,
    Delimited rest →
    lex number ((String.intercalate "," (Json.stringifyElements es)).toList ++ rest) .between =
      (lex number rest .between).map (elementTokens es ++ ·)
  | [], _, rest, _ => by simp [Json.stringifyElements, elementTokens]
  | [e], hes, rest, hr => by
    rw [Json.NumeralsElements] at hes
    rw [Json.stringifyElements, Json.stringifyElements, String.intercalate_singleton, elementTokens]
    exact lex_stringify e hes.1 rest hr
  | e :: e' :: es, hes, rest, hr => by
    rw [Json.NumeralsElements] at hes
    have ht := lex_elements (e' :: es) hes.2 rest hr
    have hh := lex_stringify e hes.1 (',' :: ((String.intercalate ","
      (stringifyElements (e' :: es))).toList ++ rest)) (delimited_cons (by decide) _)
    have hte : (String.intercalate "," (stringifyElements (e :: e' :: es))).toList ++ rest =
        (stringify e).toList ++ ',' :: ((String.intercalate ","
          (stringifyElements (e' :: es))).toList ++ rest) := by
      simp [stringifyElements, String.intercalate_cons_cons, -String.toList_intercalate]
    rw [hte, hh, lex_comma, ht, elementTokens]
    simp [Function.comp_def]

theorem lex_members : ∀ (o : List (String × Json)), Json.NumeralsMembers number o → ∀ rest,
    Delimited rest →
    lex number ((String.intercalate "," (Json.stringifyMembers o)).toList ++ rest) .between =
      (lex number rest .between).map (memberTokens o ++ ·)
  | [], _, rest, _ => by simp [Json.stringifyMembers, memberTokens]
  | [(k, v)], ho, rest, hr => by
    rw [Json.NumeralsMembers] at ho
    have ht : (String.intercalate "," (Json.stringifyMembers [(k, v)])).toList ++ rest =
        (Json.quote k).toList ++ ':' :: ((Json.stringify v).toList ++ rest) := by
      simp [stringifyMembers, -String.toList_intercalate]
    rw [ht, lex_quote, lex_colon, lex_stringify v ho.1 rest hr, memberTokens]
    simp [Function.comp_def]
  | (k, v) :: m :: o, ho, rest, hr => by
    have hta := lex_members (m :: o) ho.2 rest hr
    have hh := lex_stringify v ho.1 (',' :: ((String.intercalate ","
      (stringifyMembers (m :: o))).toList ++ rest)) (delimited_cons (by decide) _)
    obtain ⟨k', v'⟩ := m
    have ht : (String.intercalate "," (stringifyMembers ((k, v) :: (k', v') :: o))).toList ++
          rest =
        (quote k).toList ++ ':' :: ((stringify v).toList ++ ',' :: ((String.intercalate ","
          (stringifyMembers ((k', v') :: o))).toList ++ rest)) := by
      simp [stringifyMembers, String.intercalate_cons_cons, -String.toList_intercalate]
    rw [ht, lex_quote, lex_colon, hh, lex_comma, hta, memberTokens]
    simp [Function.comp_def]

end

end JsonText

/-! ## The round trip -/

theorem foldl_setMember_of_nodup {o acc : List (String × Json)}
    (hn : ((acc ++ o).map Prod.fst).Nodup) :
    o.foldl (fun acc m => setMember acc m.1 m.2) acc = acc ++ o := by
  induction o generalizing acc with
  | nil => simp
  | cons m o ih =>
    have hf : m.1 ∉ acc.map Prod.fst := by
      rw [map_append, map_cons] at hn
      intro hm
      exact (nodup_append.mp hn).2.2 m.1 hm m.1 mem_cons_self rfl
    rw [foldl_cons, setMember, if_neg hf, ih (by simpa using hn)]
    simp

mutual

theorem Json.collapse_of_distinct : ∀ v : Json, v.Distinct → v.collapse = v
  | .null, _ => rfl
  | .bool _, _ => rfl
  | .num _, _ => rfl
  | .str _, _ => rfl
  | .arr es, hes => by
    rw [Json.Distinct] at hes
    rw [Json.collapse, Json.collapseElements_of_distinct es hes]
  | .obj o, ho => by
    rw [Json.Distinct] at ho
    rw [Json.collapse, Json.collapseMembers_of_distinct o ho.2,
      foldl_setMember_of_nodup (by simpa using ho.1), List.nil_append]

theorem Json.collapseElements_of_distinct : ∀ es : List Json, Json.DistinctElements es →
    Json.collapseElements es = es
  | [], _ => rfl
  | e :: es, hes => by
    rw [Json.DistinctElements] at hes
    rw [Json.collapseElements, Json.collapse_of_distinct e hes.1,
      Json.collapseElements_of_distinct es hes.2]

theorem Json.collapseMembers_of_distinct : ∀ o : List (String × Json),
    Json.DistinctMembers o → Json.collapseMembers o = o
  | [], _ => rfl
  | (k, v) :: o, ho => by
    rw [Json.DistinctMembers] at ho
    rw [Json.collapseMembers, Json.collapse_of_distinct v ho.1,
      Json.collapseMembers_of_distinct o ho.2]

end

variable {number}

theorem syntaxTree_stringify {v : Json} (hv : v.Numerals number) :
    syntaxTree number (Json.stringify v) = some v := by
  have hl := JsonText.lex_stringify v hv [] (fun c hc => by simp at hc)
  have hr := JsonText.read_tokens v [] []
  rw [append_nil] at hl hr
  rw [syntaxTree, hl]
  simpa [JsonText.lex, JsonText.read] using hr

theorem parseJson_stringify {v : Json} (hv : v.Numerals number) (hn : v.Distinct) :
    parseJson number (Json.stringify v) = some v := by
  rw [parseJson, syntaxTree_stringify hv, Option.map_some, collapse_of_distinct v hn]

theorem eq_of_stringify_eq {v v' : Json} (hv : v.Numerals number) (hv' : v'.Numerals number)
    (hte : v.stringify = v'.stringify) : v = v' := by
  have ht := syntaxTree_stringify hv
  rw [hte, syntaxTree_stringify hv'] at ht
  exact (Option.some.inj ht).symm

/-! ### Natural numbers -/

theorem isDigit_of_mem_toString {n : ℕ} {c : Char} (hc : c ∈ (toString n).toList) :
    c.isDigit = true := by
  rw [Nat.toString_eq_ofList_toDigits, String.toList_ofList] at hc
  exact Nat.isDigit_of_mem_toDigits (by decide) (by decide) hc

theorem toString_toList_ne_nil (n : ℕ) : (toString n).toList ≠ [] := by
  rw [Nat.toString_eq_ofList_toDigits, String.toList_ofList]
  exact Nat.toDigits_ne_nil

theorem head?_toDigits_ne_zero {n : ℕ} (hn : n ≠ 0) : (Nat.toDigits 10 n).head? ≠ some '0' := by
  induction n using Nat.strong_induction_on with
  | _ n ih =>
    by_cases hlt : n < 10
    · have hdig : ∀ d : Fin 10, d.val ≠ 0 → [Nat.digitChar d].head? ≠ some '0' := by decide
      rw [Nat.toDigits_of_lt_base hlt]
      exact hdig ⟨n, hlt⟩ hn
    · rw [Nat.toDigits_of_base_le (by decide) (by omega), head?_append]
      have hdiv : n / 10 ≠ 0 := by omega
      have hrest := ih (n / 10) (by omega) hdiv
      cases hhead : (Nat.toDigits 10 (n / 10)).head? with
      | none => exact absurd (head?_eq_none_iff.mp hhead) Nat.toDigits_ne_nil
      | some c =>
        rw [hhead] at hrest
        simpa using hrest

theorem isNumeral_toString (n : ℕ) : JsonText.isNumeral (toString n).toList = true := by
  have hdigs : ∀ c ∈ (toString n).toList, c.isDigit = true := fun c => isDigit_of_mem_toString
  have hminus : (toString n).toList.head? ≠ some '-' := by
    intro hhead
    have := hdigs '-' (mem_of_mem_head? hhead)
    exact absurd this (by decide)
  have htake : (toString n).toList.takeWhile Char.isDigit = (toString n).toList :=
    takeWhile_eq_self_iff.mpr hdigs
  have hdrop : (toString n).toList.dropWhile Char.isDigit = [] :=
    dropWhile_eq_nil_iff.mpr hdigs
  have hne := toString_toList_ne_nil n
  rw [JsonText.isNumeral, if_neg hminus, htake, hdrop]
  by_cases hn : n = 0
  · subst hn
    decide
  · have hhead := head?_toDigits_ne_zero hn
    simp [hhead, JsonText.isFraction, JsonText.isExponent]

theorem numeral_ofNat {n : ℕ} (hn : number (toString n) = JsNumber.ofNat n) :
    Numeral number (JsNumber.ofNat n) := by
  have hd : ∀ c ∈ (toString n).toList, c.isDigit = true := fun c => isDigit_of_mem_toString
  have hne := toString_toList_ne_nil n
  refine ⟨hne, fun c hc => ?_, ?_⟩
  · have hdi := hd c hc
    simp [JsonText.isWordChar, Char.isAlphanum, hdi]
  · have hno : ∀ w : String, (∃ c ∈ w.toList, c.isDigit = false) → (toString n).toList ≠ w.toList := by
      rintro w ⟨c, hc, hcd⟩ heq
      rw [← heq] at hc
      rw [hd c hc] at hcd
      cases hcd
    change JsonText.readWord number (toString n).toList = _
    rw [JsonText.readWord, if_neg (hno "null" ⟨'n', by decide, by decide⟩),
      if_neg (hno "true" ⟨'t', by decide, by decide⟩),
      if_neg (hno "false" ⟨'f', by decide, by decide⟩), if_pos (isNumeral_toString n), String.ofList_toList, hn]

end Values

def readDecimal (text : String) : JsNumber := JsNumber.ofNat (Nat.ofDigitChars 10 text.toList 0)

theorem readDecimal_toString (n : ℕ) : readDecimal (toString n) = JsNumber.ofNat n := by
  rw [readDecimal, Nat.toString_eq_ofList_toDigits, String.toList_ofList,
    Nat.ofDigitChars_ten_toDigits]

end AcdpControlPlane
