import AcdpControlPlane.Auth.Keys
import AcdpControlPlane.Common.Cut
import AcdpControlPlane.Common.Separated

/-!
# Loading the pinned keys

`load` and `parseKeyEntry` of `src/auth/pinned-keys.service.ts`. The variable `CONTROL_PLANE_PINNED_KEYS` is a
list of entries `did=key[:algorithm][:from..until]`. Entries that cannot be read are skipped with a warning.
The parser takes the window and the algorithm off the end of an entry; a base64 key has no colon, so what
is left is the key.
-/

namespace AcdpControlPlane

open List Cut

/-- What the parser uses of JavaScript: base64 texts, and the texts of numbers. -/
structure KeyTexts where
  bufferFrom : String → List UInt8
  numberText : ℕ → String

/-! ## One entry -/

structure ParsedEntry where
  keyB64 : String
  algorithm : SignatureAlgorithm
  validFromSec : Option Int
  validUntilSec : Option Int
deriving DecidableEq, Repr

/-- `Number(digits)`, if it is finite: below `2 ^ 1024`. -/
def numberOf (digits : List Char) : Option ℕ :=
  let n := roundToDouble (Nat.ofDigitChars 10 digits 0)
  if n.log2 < 1024 then some n else none

/-- The match of `/:(\d*)\.\.(\d*)$/`: what comes before it, and its two groups. Neither group has a
colon, so the match starts at the last one. -/
def windowMatch (body : List Char) : Option (List Char × List Char × List Char) :=
  match Cut.atLast ':' body with
  | none => none
  | some (before, window) =>
    match window.dropWhile Char.isDigit with
    | '.' :: '.' :: untilStr =>
      if untilStr.all Char.isDigit then some (before, window.takeWhile Char.isDigit, untilStr) else none
    | _ => none

def windowBound (name : String) (digits : List Char) : Except JsError (Option Int) :=
  if digits = [] then .ok none
  else
    match numberOf digits with
    | none => .error ⟨"invalid " ++ name ++ " in window: '" ++ String.ofList digits ++ "'"⟩
    | some n => .ok (some n)

def peelWindow (texts : KeyTexts) (body : List Char) :
    Except JsError (List Char × Option Int × Option Int) :=
  match windowMatch body with
  | none => .ok (body, none, none)
  | some (rest, fromStr, untilStr) =>
    if fromStr = [] ∧ untilStr = [] then
      .error ⟨"pinned-key window ':..' must specify at least one bound"⟩
    else do
      let validFromSec ← windowBound "validFrom" fromStr
      let validUntilSec ← windowBound "validUntil" untilStr
      match validFromSec, validUntilSec with
      | some f, some u =>
        if f ≥ u then
          .error ⟨"invalid window: validFrom (" ++ texts.numberText f.toNat ++ ") >= validUntil (" ++
            texts.numberText u.toNat ++ ")"⟩
        else .ok (rest, some f, some u)
      | _, _ => .ok (rest, validFromSec, validUntilSec)

def SUPPORTED_ALGS : List SignatureAlgorithm := [.ed25519, .ecdsaP256]

def algorithmSuffix (alg : SignatureAlgorithm) : List Char := ':' :: alg.text.toList

/-- Take off the first of the supported algorithms that the text ends with. -/
def peelAlgorithm (body : List Char) : List Char × SignatureAlgorithm :=
  (SUPPORTED_ALGS.findSome? fun alg => (Cut.suffix? (algorithmSuffix alg) body).map (·, alg)).getD
    (body, .ed25519)

def parseKeyEntry (texts : KeyTexts) (rhs : String) : Except JsError ParsedEntry := do
  let (body, validFromSec, validUntilSec) ← peelWindow texts rhs.toList
  return {
    keyB64 := jsTrim (String.ofList (peelAlgorithm body).1)
    algorithm := (peelAlgorithm body).2
    validFromSec := validFromSec
    validUntilSec := validUntilSec }

/-- `assertValidPublicKey` of `src/auth/acdp-verify.ts`. -/
def assertValidPublicKey (texts : KeyTexts) (algorithm : SignatureAlgorithm) (publicKeyB64 : String) :
    Except JsError Unit :=
  let raw := texts.bufferFrom publicKeyB64
  match algorithm with
  | .ed25519 =>
    if raw.length ≠ 32 then
      .error ⟨"Ed25519 public key must be 32 bytes, got " ++ toString raw.length⟩
    else .ok ()
  | .ecdsaP256 =>
    if raw.length ≠ 65 then
      .error ⟨"P-256 SEC1 public key must be 65 bytes (uncompressed), got " ++ toString raw.length⟩
    else if raw.head? ≠ some 4 then
      .error ⟨"P-256 SEC1 public key must start with 0x04 (uncompressed tag); got 0x" ++
        String.ofList (Nat.toDigits 16 (raw.headD 0).toNat)⟩
    else .ok ()

def parseEntry (texts : KeyTexts) (entry : String) : Option PinnedKey :=
  -- the first `=`: the padding of a key has more of them
  match Cut.atFirst '=' (jsTrim entry).toList with
  | none => none
  | some (left, right) =>
    let did := jsTrim (String.ofList left)
    let rhs := jsTrim (String.ofList right)
    if did = "" ∨ rhs = "" then none
    else
      let parsed? : Except JsError ParsedEntry := do
        let parsed ← parseKeyEntry texts rhs
        assertValidPublicKey texts parsed.algorithm parsed.keyB64
        return parsed
      match parsed? with
      | .error _ => none
      | .ok parsed =>
        some ⟨did, parsed.algorithm, parsed.keyB64, parsed.validFromSec, parsed.validUntilSec⟩

/-! ## The variable -/

def loadedKeys (texts : KeyTexts) (raw : String) : List PinnedKey :=
  if jsTrim raw = "" then [] else (Separated.split raw ',').filterMap (parseEntry texts)

/-- `next.set(did, key)` -/
def PinnedKeys.set (keys : PinnedKeys) (key : PinnedKey) : PinnedKeys :=
  Function.update keys key.agentDid (some key)

def load (texts : KeyTexts) (raw : String) : PinnedKeys :=
  (loadedKeys texts raw).foldl PinnedKeys.set fun _ => none

/-- The number of agents in the directory, which `load` returns. -/
def loadedCount (texts : KeyTexts) (raw : String) : ℕ :=
  ((loadedKeys texts raw).map PinnedKey.agentDid).dedup.length

def lastFor (texts : KeyTexts) (raw : String) (agentDid : String) : Option PinnedKey :=
  ((loadedKeys texts raw).filter (·.agentDid = agentDid)).getLast?

theorem foldl_set_apply (added : List PinnedKey) (keys : PinnedKeys) (agentDid : String) :
    added.foldl PinnedKeys.set keys agentDid =
      ((added.filter (·.agentDid = agentDid)).getLast?).or (keys agentDid) := by
  induction added generalizing keys with
  | nil => rfl
  | cons key added ih =>
    rw [foldl_cons, ih, PinnedKeys.set]
    by_cases hd : key.agentDid = agentDid
    · subst hd
      cases hl : (added.filter (·.agentDid = key.agentDid)).getLast? with
      | none => simp [getLast?_eq_none_iff.mp hl]
      | some last => simp [getLast?_cons, hl]
    · rw [Function.update_of_ne (Ne.symm hd), filter_cons_of_neg (by simpa using hd)]

theorem load_eq_lastFor (texts : KeyTexts) (raw agentDid : String) :
    load texts raw agentDid = lastFor texts raw agentDid := by
  unfold load lastFor
  rw [foldl_set_apply, Option.or_none]

/-! ## Entries as they are documented -/

def isBase64Char (c : Char) : Bool := c.isAlphanum || c = '+' || c = '/' || c = '='

structure WrittenBound where
  digits : List Char
  ne_nil : digits ≠ []
  isDigit : ∀ c ∈ digits, c.isDigit = true
  seconds : ℕ
  number : numberOf digits = some seconds

/-- An entry as it is documented. Without a bound, there is no window. -/
structure WrittenKey (texts : KeyTexts) where
  did : List Char
  key : List Char
  algorithm : Option SignatureAlgorithm
  validFrom : Option WrittenBound
  validUntil : Option WrittenBound
  did_ne_nil : did ≠ []
  did_trimmed : Cut.Trimmed isJsSpace did
  did_free : '=' ∉ did
  key_ne_nil : key ≠ []
  key_base64 : ∀ c ∈ key, isBase64Char c = true
  valid : assertValidPublicKey texts (algorithm.getD .ed25519) (String.ofList key) = .ok ()
  ordered : ∀ f ∈ validFrom, ∀ u ∈ validUntil, f.seconds < u.seconds

namespace WrittenKey

variable {texts : KeyTexts} (w : WrittenKey texts)

/-- `:algorithm`, if it is given. -/
def algorithmTag : List Char := (w.algorithm.map algorithmSuffix).getD []

def digitsOf (bound : Option WrittenBound) : List Char := (bound.map WrittenBound.digits).getD []

/-- `:from..until`, if a bound is given. -/
def windowTag : List Char :=
  if w.validFrom.isNone ∧ w.validUntil.isNone then []
  else ':' :: (digitsOf w.validFrom ++ '.' :: '.' :: digitsOf w.validUntil)

/-- `key[:algorithm][:from..until]` -/
def rhs : List Char := w.key ++ w.algorithmTag ++ w.windowTag

def pinned : PinnedKey where
  agentDid := String.ofList w.did
  algorithm := w.algorithm.getD .ed25519
  rawB64 := String.ofList w.key
  validFromSec := w.validFrom.map (·.seconds)
  validUntilSec := w.validUntil.map (·.seconds)

/-- The entry is written in the variable. There may be blanks around its parts. -/
def IsEntryOf (raw : String) : Prop :=
  ∃ entry ∈ Separated.split raw ',', ∃ left pad pad' right : List Char,
    (∀ c ∈ left ++ pad ++ pad' ++ right, isJsSpace c = true) ∧
      entry.toList = left ++ (w.did ++ (pad ++ '=' :: pad') ++ w.rhs) ++ right

end WrittenKey

/-! ## Reading them -/

theorem toNat_of_isDigit {c : Char} (h : c.isDigit = true) : 48 ≤ c.toNat ∧ c.toNat ≤ 57 := by
  simp only [Char.isDigit, Bool.and_eq_true, decide_eq_true_eq, ge_iff_le, UInt32.le_iff_toNat_le] at h
  exact h

theorem toNat_of_isAlpha {c : Char} (h : c.isAlpha = true) : 65 ≤ c.toNat ∧ c.toNat ≤ 122 := by
  simp only [Char.isAlpha, Char.isUpper, Char.isLower, Bool.or_eq_true, Bool.and_eq_true,
    decide_eq_true_eq, ge_iff_le, UInt32.le_iff_toNat_le] at h
  change (65 ≤ c.toNat ∧ c.toNat ≤ 90) ∨ (97 ≤ c.toNat ∧ c.toNat ≤ 122) at h
  omega

theorem not_space_of_printable {c : Char} (h : 33 ≤ c.toNat) (h' : c.toNat ≤ 126) :
    isJsSpace c = false := by
  have hc : [32, 160, 5760, 8232, 8233, 8239, 8287, 12288, 65279].contains c.toNat = false := by
    simp only [contains_eq_mem, decide_eq_false_iff_not, mem_cons, not_mem_nil, or_false]
    omega
  unfold isJsSpace
  rw [hc]
  simp only [Bool.or_false, Bool.or_eq_false_iff, Bool.and_eq_false_iff, decide_eq_false_iff_not]
  omega

theorem not_space_of_isDigit {c : Char} (h : c.isDigit = true) : isJsSpace c = false := by
  obtain ⟨hl, hg⟩ := toNat_of_isDigit h
  exact not_space_of_printable (by omega) (by omega)

theorem of_isBase64Char {c : Char} (h : isBase64Char c = true) : isJsSpace c = false ∧ c ≠ ':' := by
  simp only [isBase64Char, Char.isAlphanum, Bool.or_eq_true, decide_eq_true_eq] at h
  rcases h with (((ha | hd) | rfl) | rfl) | rfl
  · obtain ⟨hl, hg⟩ := toNat_of_isAlpha ha
    refine ⟨not_space_of_printable (by omega) (by omega), ?_⟩
    rintro rfl
    exact absurd hl (by decide)
  · refine ⟨not_space_of_isDigit hd, ?_⟩
    rintro rfl
    exact absurd hd (by decide)
  all_goals decide

theorem jsTrim_ofList (cs : List Char) :
    jsTrim (String.ofList cs) = String.ofList (Cut.trim isJsSpace cs) := by
  unfold jsTrim trim
  rw [String.toList_ofList]

namespace WrittenKey

variable {texts : KeyTexts} (w : WrittenKey texts)

theorem isDigit_of_mem_digitsOf {bound : Option WrittenBound} {c : Char} (h : c ∈ digitsOf bound) :
    c.isDigit = true := by
  cases bound with
  | none => exact absurd h not_mem_nil
  | some bound => exact bound.isDigit c h

theorem digitsOf_eq_nil_iff {bound : Option WrittenBound} : digitsOf bound = [] ↔ bound.isNone := by
  cases bound with
  | none => simp [digitsOf]
  | some bound => simp [digitsOf, bound.ne_nil]

theorem windowBound_digitsOf (name : String) (bound : Option WrittenBound) :
    windowBound name (digitsOf bound) = .ok (bound.map (·.seconds)) := by
  cases bound with
  | none => rfl
  | some bound =>
    unfold windowBound digitsOf
    simp [bound.ne_nil, bound.number]

theorem windowMatch_append (before : List Char) {fromStr untilStr : List Char}
    (hf : ∀ c ∈ fromStr, c.isDigit = true) (hu : ∀ c ∈ untilStr, c.isDigit = true) :
    windowMatch (before ++ ':' :: (fromStr ++ '.' :: '.' :: untilStr)) =
      some (before, fromStr, untilStr) := by
  have hfr : ':' ∉ fromStr ++ '.' :: '.' :: untilStr := by
    intro hm
    simp only [mem_append, mem_cons] at hm
    rcases hm with hm | hm | hm | hm
    · exact absurd (hf _ hm) (by decide)
    · exact absurd hm (by decide)
    · exact absurd hm (by decide)
    · exact absurd (hu _ hm) (by decide)
  have hc : atLast ':' (before ++ ':' :: (fromStr ++ '.' :: '.' :: untilStr)) =
      some (before, fromStr ++ '.' :: '.' :: untilStr) := atLast_eq_some_iff.mpr ⟨rfl, hfr⟩
  have hd : Char.isDigit '.' = false := by decide
  unfold windowMatch
  rw [hc]
  simp only [dropWhile_append_of_pos hf, takeWhile_append_of_pos hf,
    dropWhile_cons, takeWhile_cons, hd]
  simpa using hu

theorem windowMatch_eq_none : windowMatch (w.key ++ w.algorithmTag) = none := by
  have hk : ':' ∉ w.key := fun hm => (of_isBase64Char (w.key_base64 _ hm)).2 rfl
  unfold windowMatch algorithmTag
  cases ha : w.algorithm with
  | none =>
    have hc : atLast ':' w.key = none := atLast_eq_none_iff.mpr hk
    simp [hc]
  | some alg =>
    have hc : atLast ':' (w.key ++ algorithmSuffix alg) = some (w.key, alg.text.toList) := by
      refine atLast_eq_some_iff.mpr ⟨rfl, ?_⟩
      cases alg <;> decide
    simp only [Option.map_some, Option.getD_some, hc]
    cases alg <;> rfl

theorem peelWindow_rhs : peelWindow texts w.rhs =
    .ok (w.key ++ w.algorithmTag, w.pinned.validFromSec, w.pinned.validUntilSec) := by
  unfold rhs windowTag
  split
  · next hn =>
    obtain ⟨hf, hu⟩ := hn
    rw [append_nil, peelWindow, w.windowMatch_eq_none]
    simp [pinned, Option.isNone_iff_eq_none.mp hf, Option.isNone_iff_eq_none.mp hu]
  · next hs =>
    have hb : ¬ (digitsOf w.validFrom = [] ∧ digitsOf w.validUntil = []) := by
      rw [digitsOf_eq_nil_iff, digitsOf_eq_nil_iff]
      exact hs
    have ho := w.ordered
    unfold peelWindow
    rw [windowMatch_append _ (fun _ => isDigit_of_mem_digitsOf) fun _ => isDigit_of_mem_digitsOf]
    simp only [hb, if_false, windowBound_digitsOf, pinned]
    cases hf : w.validFrom with
    | none => rfl
    | some f =>
      cases hu : w.validUntil with
      | none => rfl
      | some u =>
        -- both bounds are given, and in their order
        have hl : ¬ (f.seconds : Int) ≥ u.seconds := by
          have := ho f hf u hu
          omega
        change (if (f.seconds : Int) ≥ u.seconds then _ else _) = _
        rw [if_neg hl]
        rfl

theorem peelAlgorithm_tag : peelAlgorithm (w.key ++ w.algorithmTag) = (w.key, w.pinned.algorithm) := by
  have hk : ':' ∉ w.key := fun hm => (of_isBase64Char (w.key_base64 _ hm)).2 rfl
  have hn : ∀ alg, suffix? (algorithmSuffix alg) w.key = none := by
    intro alg
    rw [Option.eq_none_iff_forall_ne_some]
    intro before hc
    rw [suffix?_eq_some_iff] at hc
    exact hk (hc ▸ mem_append_right _ mem_cons_self)
  have ht : ∀ alg, suffix? (algorithmSuffix alg) (w.key ++ algorithmSuffix alg) = some w.key :=
    fun alg => suffix?_eq_some_iff.mpr rfl
  have ho : suffix? (algorithmSuffix .ed25519) (w.key ++ algorithmSuffix .ecdsaP256) = none := by
    rw [Option.eq_none_iff_forall_ne_some]
    intro before hc
    rw [suffix?_eq_some_iff] at hc
    -- the tags end with different characters
    have hl := congrArg getLast? hc
    simp [algorithmSuffix, SignatureAlgorithm.text] at hl
  unfold peelAlgorithm algorithmTag SUPPORTED_ALGS pinned
  cases w.algorithm with
  | none => simp [hn]
  | some alg =>
    cases alg with
    | ed25519 => simp [ht]
    | ecdsaP256 => simp [ht, ho]

/-! ### The whole entry -/

theorem not_space_of_mem_rhs {c : Char} (h : c ∈ w.rhs) : isJsSpace c = false := by
  rcases mem_append.mp h with h | h
  · rcases mem_append.mp h with h | h
    · exact (of_isBase64Char (w.key_base64 c h)).1
    · have ht : ∀ alg, (algorithmSuffix alg).all (!isJsSpace ·) = true := by
        intro alg
        cases alg <;> decide
      unfold algorithmTag at h
      cases ha : w.algorithm with
      | none =>
        rw [ha] at h
        exact absurd h not_mem_nil
      | some alg =>
        rw [ha] at h
        simpa using all_eq_true.mp (ht alg) c h
  · unfold windowTag at h
    split at h
    · exact absurd h not_mem_nil
    · simp only [mem_cons, mem_append] at h
      rcases h with rfl | h | rfl | rfl | h
      · decide
      · exact not_space_of_isDigit (isDigit_of_mem_digitsOf h)
      · decide
      · decide
      · exact not_space_of_isDigit (isDigit_of_mem_digitsOf h)

theorem rhs_ne_nil : w.rhs ≠ [] := by
  unfold rhs
  simp [w.key_ne_nil]

theorem parseKeyEntry_rhs : parseKeyEntry texts (String.ofList w.rhs) =
    .ok ⟨w.pinned.rawB64, w.pinned.algorithm, w.pinned.validFromSec, w.pinned.validUntilSec⟩ := by
  have hk : trim isJsSpace w.key = w.key :=
    trim_of_trimmed (trimmed_of_forall fun c hc => (of_isBase64Char (w.key_base64 c hc)).1)
  unfold parseKeyEntry
  rw [String.toList_ofList, w.peelWindow_rhs]
  dsimp only [bind, Except.bind, pure, Except.pure]
  rw [w.peelAlgorithm_tag, jsTrim_ofList, hk]
  rfl

theorem parseEntry_text {left pad pad' right : List Char} {entry : String}
    (hb : ∀ c ∈ left ++ pad ++ pad' ++ right, isJsSpace c = true)
    (hen : entry.toList = left ++ (w.did ++ (pad ++ '=' :: pad') ++ w.rhs) ++ right) :
    parseEntry texts entry = some w.pinned := by
  have hr : Trimmed isJsSpace w.rhs := trimmed_of_forall fun c hc => w.not_space_of_mem_rhs hc
  -- the blanks around the entry are trimmed, then it is cut at its first `=`
  have ht : (jsTrim entry).toList = w.did ++ (pad ++ '=' :: pad') ++ w.rhs := by
    rw [← String.ofList_toList (s := entry), jsTrim_ofList, String.toList_ofList, hen]
    refine trim_pad (w.did_trimmed.append hr w.did_ne_nil w.rhs_ne_nil _) (by simp) ?_ ?_
    · exact fun c hc => hb c (by simp [hc])
    · exact fun c hc => hb c (by simp [hc])
  have hcu : atFirst '=' (w.did ++ (pad ++ '=' :: pad') ++ w.rhs) =
      some (w.did ++ pad, pad' ++ w.rhs) := by
    refine atFirst_eq_some_iff.mpr ⟨by simp, ?_⟩
    rw [mem_append, not_or]
    refine ⟨w.did_free, fun hm => ?_⟩
    exact absurd (hb '=' (by simp [hm])) (by decide)
  -- and the blanks around the `=` are trimmed
  have hd : trim isJsSpace (w.did ++ pad) = w.did := by
    have := @trim_pad _ isJsSpace w.did [] pad w.did_trimmed w.did_ne_nil (forall_mem_nil _)
      fun c hc => hb c (by simp [hc])
    simpa using this
  have hrg : trim isJsSpace (pad' ++ w.rhs) = w.rhs := by
    have := @trim_pad _ isJsSpace w.rhs pad' [] hr w.rhs_ne_nil
      (fun c hc => hb c (by simp [hc])) (forall_mem_nil _)
    simpa using this
  have hn : ¬ (String.ofList w.did = "" ∨ String.ofList w.rhs = "") := by
    simp [w.did_ne_nil, w.rhs_ne_nil]
  unfold parseEntry
  rw [ht, hcu]
  simp only [jsTrim_ofList, hd, hrg, hn, if_false, w.parseKeyEntry_rhs]
  dsimp only [bind, Except.bind, pure, Except.pure]
  have hv : assertValidPublicKey texts w.pinned.algorithm w.pinned.rawB64 = .ok () := w.valid
  rw [hv]
  rfl

theorem mem_loadedKeys {raw : String} (h : w.IsEntryOf raw) : w.pinned ∈ loadedKeys texts raw := by
  obtain ⟨entry, hen, left, pad, pad', right, hb, ht⟩ := h
  have hp := w.parseEntry_text hb ht
  unfold loadedKeys
  split
  · -- a blank variable has blank entries only
    next hn =>
    rw [← String.ofList_toList (s := raw), jsTrim_ofList, String.ofList_eq_empty_iff] at hn
    have hm : '=' ∈ raw.toList := by
      apply Separated.mem_of_mem_split hen
      rw [ht]
      simp
    exact absurd (blank_of_trim_eq_nil hn '=' hm) (by decide)
  · exact mem_filterMap.mpr ⟨entry, hen, hp⟩

end WrittenKey

/-! ## What a lookup finds -/

/-- The text of an entry has the agent before its first `=`, and the key at the beginning of what follows
it, but for blanks. -/
def Lists (entry : String) (key : PinnedKey) : Prop :=
  ∃ left right body suffixes, (jsTrim entry).toList = left ++ '=' :: right ∧ '=' ∉ left ∧
    jsTrim (String.ofList left) = key.agentDid ∧
    (jsTrim (String.ofList right)).toList = body ++ suffixes ∧
    jsTrim (String.ofList body) = key.rawB64

section Lookup

variable {texts : KeyTexts} {raw agentDid : String} {now : Int} {key : PinnedKey}

theorem prefix_of_peelWindow {body rest : List Char} {bounds : Option Int × Option Int}
    (h : peelWindow texts body = .ok (rest, bounds)) : rest <+: body := by
  unfold peelWindow at h
  split at h
  · cases h
    exact prefix_rfl
  · next rest' fromStr untilStr hm =>
    have hr : rest' <+: body := by
      unfold windowMatch at hm
      split at hm
      · cases hm
      · next before window hc =>
        obtain ⟨rfl, -⟩ := atLast_eq_some_iff.mp hc
        split at hm
        · obtain ⟨-, hm⟩ := Option.ite_none_right_eq_some.mp hm
          cases hm
          exact prefix_append _ _
        · cases hm
    obtain ⟨-, h⟩ := Throwing.ite_error_eq_ok.mp h
    obtain ⟨validFromSec, -, h⟩ := Throwing.bind_eq_ok.mp h
    obtain ⟨validUntilSec, -, h⟩ := Throwing.bind_eq_ok.mp h
    split at h
    · obtain ⟨-, h⟩ := Throwing.ite_error_eq_ok.mp h
      cases h
      exact hr
    · cases h
      exact hr

theorem prefix_of_peelAlgorithm (body : List Char) : (peelAlgorithm body).1 <+: body := by
  unfold peelAlgorithm
  cases hf : SUPPORTED_ALGS.findSome?
      fun alg => (suffix? (algorithmSuffix alg) body).map (·, alg) with
  | none => exact prefix_rfl
  | some peeled =>
    obtain ⟨alg, -, hp⟩ := exists_of_findSome?_eq_some hf
    obtain ⟨before, hc, rfl⟩ := Option.map_eq_some_iff.mp hp
    rw [suffix?_eq_some_iff.mp hc]
    exact prefix_append _ _

theorem keyB64_of_parseKeyEntry {rhs : String} {parsed : ParsedEntry}
    (h : parseKeyEntry texts rhs = .ok parsed) :
    ∃ body suffixes, rhs.toList = body ++ suffixes ∧ jsTrim (String.ofList body) = parsed.keyB64 := by
  obtain ⟨⟨body, bounds⟩, hw, h⟩ := Throwing.bind_eq_ok.mp h
  have hk := congrArg ParsedEntry.keyB64 (Except.ok.inj h)
  obtain ⟨suffixes, hs⟩ := (prefix_of_peelAlgorithm body).trans (prefix_of_peelWindow hw)
  exact ⟨(peelAlgorithm body).1, suffixes, hs.symm, hk⟩

theorem lists_of_parseEntry {entry : String} (h : parseEntry texts entry = some key) : Lists entry key := by
  unfold parseEntry at h
  split at h
  · cases h
  · next left right hc =>
    obtain ⟨ht, hf⟩ := atFirst_eq_some_iff.mp hc
    dsimp only at h
    split at h
    · cases h
    · split at h
      · cases h
      · next parsed hp =>
        cases h
        obtain ⟨parsed', hen, hp⟩ := Throwing.bind_eq_ok.mp hp
        obtain ⟨-, hp⟩ := Throwing.check_bind_eq_ok.mp hp
        cases hp
        obtain ⟨body, suffixes, hs, hk⟩ := keyB64_of_parseKeyEntry hen
        exact ⟨left, right, body, suffixes, ht, hf, rfl, hs, hk⟩

theorem get_load_eq_some_iff : (load texts raw).get agentDid now = some key ↔
    lastFor texts raw agentDid = some key ∧ key.InWindow now := by
  rw [PinnedKeys.get_eq_some_iff, load_eq_lastFor]

theorem of_lastFor (h : lastFor texts raw agentDid = some key) :
    key ∈ loadedKeys texts raw ∧ key.agentDid = agentDid := by
  obtain ⟨hm, hd⟩ := mem_filter.mp (mem_of_getLast? h)
  exact ⟨hm, of_decide_eq_true hd⟩

def IsCovered (texts : KeyTexts) (raw agentDid : String) (now : Int) : Prop :=
  ∃ w : WrittenKey texts, w.IsEntryOf raw ∧ w.pinned.agentDid = agentDid ∧ w.pinned.InWindow now

/-- **A lookup returns only keys that an entry of the agent lists, inside their windows; and it finds a
key wherever an entry covers the instant, exactly if the last entry of the agent does.** -/
theorem covering_key_found_iff (texts : KeyTexts) (raw agentDid : String) (now : Int) :
    (∀ key, (load texts raw).get agentDid now = some key →
        key.agentDid = agentDid ∧ key.InWindow now ∧
          ∃ entry ∈ Separated.split raw ',', Lists entry key) ∧
      ((IsCovered texts raw agentDid now → ∃ key, (load texts raw).get agentDid now = some key) ↔
        (IsCovered texts raw agentDid now →
          ∀ last, lastFor texts raw agentDid = some last → last.InWindow now)) := by
  refine ⟨?_, forall_congr' ?_⟩
  · intro key hg
    obtain ⟨hl, hw⟩ := get_load_eq_some_iff.mp hg
    obtain ⟨hm, hd⟩ := of_lastFor hl
    refine ⟨hd, hw, ?_⟩
    unfold loadedKeys at hm
    split at hm
    · exact absurd hm not_mem_nil
    · obtain ⟨entry, hen, hp⟩ := mem_filterMap.mp hm
      exact ⟨entry, hen, lists_of_parseEntry hp⟩
  · rintro ⟨w, hen, hd, -⟩
    -- an entry is there, so there is a last one
    have hm : w.pinned ∈ (loadedKeys texts raw).filter (·.agentDid = agentDid) :=
      mem_filter.mpr ⟨w.mem_loadedKeys hen, decide_eq_true hd⟩
    obtain ⟨last, hl⟩ : ∃ last, lastFor texts raw agentDid = some last :=
      ⟨_, getLast?_eq_some_getLast (ne_nil_of_mem hm)⟩
    constructor
    · rintro ⟨key, hg⟩ last' hl'
      obtain ⟨hk, hw⟩ := get_load_eq_some_iff.mp hg
      rw [hk] at hl'
      cases hl'
      exact hw
    · intro hw
      exact ⟨last, get_load_eq_some_iff.mpr ⟨hl, hw last hl⟩⟩

end Lookup

/-! A key is replaced at second 100. -/

def sampleKeyTexts : KeyTexts := ⟨fun _ => List.replicate 32 0, toString⟩

def sampleBound : WrittenBound := ⟨['1', '0', '0'], by decide, List.all_eq_true.mp rfl, 100, by decide⟩

def oldKey : WrittenKey sampleKeyTexts :=
  ⟨['d'], ['o'], none, none, some sampleBound, by decide, by decide, by decide, by decide,
    List.all_eq_true.mp rfl, rfl, by simp⟩

def newKey : WrittenKey sampleKeyTexts :=
  ⟨['d'], ['n'], some .ed25519, some sampleBound, none, by decide, by decide, by decide, by decide,
    List.all_eq_true.mp rfl, rfl, by simp⟩

theorem covering_key_found_single :
    ∃ key, (load sampleKeyTexts "a=x, d = o:..100").get "d" 50000000 = some key := by
  have hc : IsCovered sampleKeyTexts "a=x, d = o:..100" "d" 50000000 :=
    ⟨oldKey, ⟨" d = o:..100", by decide, [' '], [' '], [' '], [], all_eq_true.mp rfl, by decide⟩,
      by decide, by decide⟩
  refine (covering_key_found_iff sampleKeyTexts _ _ _).2.mpr ?_ hc
  intro _ last hl
  have hl' : lastFor sampleKeyTexts "a=x, d = o:..100" "d" = some oldKey.pinned := by decide
  cases hl
  decide

/-- The old key and the new one, in either order: one of them is not found. -/
theorem covering_key_lost :
    (IsCovered sampleKeyTexts "d=o:..100,d=n:ed25519:100.." "d" 50000000 ∧
      (load sampleKeyTexts "d=o:..100,d=n:ed25519:100..").get "d" 50000000 = none) ∧
    IsCovered sampleKeyTexts "d=n:ed25519:100..,d=o:..100" "d" 150000000 ∧
      (load sampleKeyTexts "d=n:ed25519:100..,d=o:..100").get "d" 150000000 = none := by
  refine ⟨⟨⟨oldKey, ⟨"d=o:..100", by decide, [], [], [], [], nofun, by decide⟩, by decide, by decide⟩, ?_⟩,
    ⟨newKey, ⟨"d=n:ed25519:100..", by decide, [], [], [], [], nofun, by decide⟩, by decide, by decide⟩, ?_⟩
  · decide
  · decide

end AcdpControlPlane
