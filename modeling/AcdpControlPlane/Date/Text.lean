import AcdpControlPlane.Date.Calendar
import Mathlib.Data.String.Basic

/-!
# Date texts

The text `toISOString` writes, and the reading of `Date.parse`. The standard fixes one format: a date,
down to the year, the month or the day, and optionally a time with an offset. A year is written with
four digits, and years outside 0 to 9999 with a sign and six. Any other text is read as the
implementation sees fit, and so is a time without an offset, which is local: that reading is a
parameter here.
-/

namespace JsDate

/-! ## Digits -/

/-- The last `w` decimal digits of a number. -/
def digits : ℕ → ℕ → List Char
  | 0, _ => []
  | w + 1, n => Nat.digitChar (n / 10 ^ w % 10) :: digits w n

/-- Read `w` digits after those already read. -/
def readDigits : ℕ → ℕ → List Char → Option (ℕ × List Char)
  | 0, acc, cs => some (acc, cs)
  | _ + 1, _, [] => none
  | w + 1, acc, c :: cs =>
    if c.isDigit then readDigits w (acc * 10 + (c.toNat - '0'.toNat)) cs else none

variable {n : ℕ}

theorem isDigit_digitChar (hn : n < 10) : (Nat.digitChar n).isDigit = true := by
  have ha : ∀ n < 10, (Nat.digitChar n).isDigit = true := by decide
  exact ha n hn

theorem digitChar_toNat (hn : n < 10) : (Nat.digitChar n).toNat - '0'.toNat = n := by
  have ha : ∀ n < 10, (Nat.digitChar n).toNat - '0'.toNat = n := by decide
  exact ha n hn

theorem digitChar_lt_iff {m : ℕ} (hm : m < 10) (hn : n < 10) :
    Nat.digitChar m < Nat.digitChar n ↔ m < n := by
  have ha : ∀ m < 10, ∀ n < 10, Nat.digitChar m < Nat.digitChar n ↔ m < n := by decide
  exact ha m hm n hn

theorem digitChar_inj {m : ℕ} (hm : m < 10) (hn : n < 10) :
    Nat.digitChar m = Nat.digitChar n ↔ m = n := by
  have ha : ∀ m < 10, ∀ n < 10, Nat.digitChar m = Nat.digitChar n ↔ m = n := by decide
  exact ha m hm n hn

theorem digits_mod (w n : ℕ) : digits w (n % 10 ^ w) = digits w n := by
  induction w generalizing n with
  | zero => rfl
  | succ w ih =>
    have hh : n % 10 ^ (w + 1) / 10 ^ w % 10 = n / 10 ^ w % 10 := by
      rw [Nat.pow_succ, Nat.mod_mul_right_div_self, Nat.mod_mod]
    have ht : n % 10 ^ (w + 1) % 10 ^ w = n % 10 ^ w :=
      Nat.mod_mod_of_dvd n (Nat.pow_dvd_pow 10 (Nat.le_succ w))
    rw [digits, digits, hh, ← ih (n % 10 ^ (w + 1)), ht, ih]

theorem readDigits_digits (w acc n : ℕ) (rest : List Char) :
    readDigits w acc (digits w n ++ rest) = some (acc * 10 ^ w + n % 10 ^ w, rest) := by
  induction w generalizing acc with
  | zero => simp [digits, readDigits, Nat.mod_one]
  | succ w ih =>
    have hl : n / 10 ^ w % 10 < 10 := Nat.mod_lt _ (by omega)
    rw [digits, List.cons_append, readDigits, if_pos (isDigit_digitChar hl),
      digitChar_toNat hl, ih]
    congr 2
    rw [Nat.pow_succ, Nat.mod_mul, Nat.add_mul, Nat.mul_assoc, Nat.mul_comm 10,
      Nat.mul_comm (n / 10 ^ w % 10)]
    omega

theorem lt_iff_div_mod (p m n : ℕ) : m < n ↔ m / p < n / p ∨ m / p = n / p ∧ m % p < n % p := by
  have hm := Nat.div_add_mod m p
  have hn := Nat.div_add_mod n p
  constructor
  · intro h
    rcases Nat.lt_or_eq_of_le (Nat.div_le_div_right (c := p) (Nat.le_of_lt h)) with hl | heq
    · exact Or.inl hl
    · refine Or.inr ⟨heq, ?_⟩
      rw [heq] at hm
      omega
  · rintro (hl | ⟨heq, hl⟩)
    · exact Nat.lt_of_div_lt_div hl
    · rw [heq] at hm
      omega

theorem digits_append_lt_iff {w m : ℕ} (hm : m < 10 ^ w) (hn : n < 10 ^ w) (x y : List Char) :
    digits w m ++ x < digits w n ++ y ↔ m < n ∨ m = n ∧ x < y := by
  induction w generalizing m n with
  | zero =>
    rw [Nat.pow_zero, Nat.lt_one_iff] at hm hn
    subst hm hn
    simp [digits]
  | succ w ih =>
    have hp : 0 < 10 ^ w := Nat.pow_pos (by omega)
    have hm' : m / 10 ^ w < 10 := Nat.div_lt_of_lt_mul hm
    have hn' : n / 10 ^ w < 10 := Nat.div_lt_of_lt_mul hn
    have ht := ih (Nat.mod_lt m hp) (Nat.mod_lt n hp)
    rw [digits_mod, digits_mod] at ht
    rw [digits, digits, List.cons_append, List.cons_append, List.cons_lt_cons_iff, ht,
      Nat.mod_eq_of_lt hm', Nat.mod_eq_of_lt hn', digitChar_lt_iff hm' hn', digitChar_inj hm' hn',
      lt_iff_div_mod (10 ^ w) m n]
    -- the head and the tail of the digits are the quotient and the remainder
    have heq : m = n ↔ m / 10 ^ w = n / 10 ^ w ∧ m % 10 ^ w = n % 10 ^ w := by
      constructor
      · rintro rfl
        exact ⟨rfl, rfl⟩
      · rintro ⟨hd, hmo⟩
        rw [← Nat.div_add_mod m (10 ^ w), hd, hmo, Nat.div_add_mod]
    tauto

/-! ## Writing -/

def yearText (year : Int) : List Char :=
  if 0 ≤ year ∧ year ≤ 9999 then digits 4 year.toNat
  else (if year < 0 then '-' else '+') :: digits 6 year.natAbs

def isoText (f : Fields) : List Char :=
  yearText f.year ++ '-' :: (digits 2 f.month ++ '-' :: (digits 2 f.day ++
    'T' :: (digits 2 f.hour ++ ':' :: (digits 2 f.minute ++ ':' :: (digits 2 f.second ++
      '.' :: (digits 3 f.milli ++ ['Z']))))))

def toISOString (t : Int) : String := String.ofList (isoText (fieldsOf t))

/-! ## Reading -/

/-- The year `-000000` is not one. -/
def readYear : List Char → Option (Int × List Char)
  | [] => none
  | c :: cs =>
    if c = '+' then (readDigits 6 0 cs).map fun (n, rest) => ((n : Int), rest)
    else if c = '-' then
      (readDigits 6 0 cs).bind fun (n, rest) => if n = 0 then none else some (-(n : Int), rest)
    else (readDigits 4 0 (c :: cs)).map fun (n, rest) => ((n : Int), rest)

/-- A field that may be left out, with its separator. A minute may not, and 60 stands for one that
is. -/
def readField (sep : Char) (w absent : ℕ) : List Char → Option (ℕ × List Char)
  | [] => some (absent, [])
  | c :: cs => if c = sep then readDigits w 0 cs else some (absent, c :: cs)

def readSeconds : List Char → Option ((ℕ × ℕ) × List Char)
  | ':' :: cs => do
    let (second, cs) ← readDigits 2 0 cs
    let (milli, cs) ← readField '.' 3 0 cs
    return ((second, milli), cs)
  | cs => some ((0, 0), cs)

/-- The offset from UTC that ends a text, in milliseconds. -/
def readOffset : List Char → Option Int
  | ['Z'] => some 0
  | '+' :: cs => offset 1 cs
  | '-' :: cs => offset (-1) cs
  | _ => none
where
  offset (sign : Int) (cs : List Char) : Option Int := do
    let (hour, cs) ← readDigits 2 0 cs
    let (minute, cs) ← readField ':' 2 60 cs
    if cs = [] ∧ hour < 24 ∧ minute < 60 then some (sign * (hour * 60 + minute) * 60000) else none

/-- The time of fields that are within their bounds, or that are the end of a day. -/
def timeOf? (f : Fields) : Option Int :=
  let inDay := if f.hour = 24 ∧ f.minute = 0 ∧ f.second = 0 ∧ f.milli = 0 then 23 else f.hour
  if 1 ≤ f.month ∧ f.month ≤ 12 ∧ 1 ≤ f.day ∧ f.day ≤ daysInMonth (isLeapYear f.year) f.month ∧
      inDay < 24 ∧ f.minute < 60 ∧ f.second < 60 ∧ f.milli < 1000 then some (timeOf f)
  else none

def parseIso (cs : List Char) : Option Int := do
  let (year, cs) ← readYear cs
  let (month, cs) ← readField '-' 2 1 cs
  let (day, cs) ← readField '-' 2 1 cs
  match cs with
  | [] => timeOf? ⟨year, month, day, 0, 0, 0, 0⟩
  | 'T' :: cs =>
    let (hour, cs) ← readDigits 2 0 cs
    let (minute, cs) ← readField ':' 2 60 cs
    let ((second, milli), cs) ← readSeconds cs
    let offset ← readOffset cs
    let time ← timeOf? ⟨year, month, day, hour, minute, second, milli⟩
    return time - offset
  | _ => none

/-- The largest time value, and the least one without its sign. -/
def MAX_TIME : Int := 8640000000000000

def InRange (t : Int) : Prop := -MAX_TIME ≤ t ∧ t ≤ MAX_TIME

instance (t : Int) : Decidable (InRange t) := inferInstanceAs (Decidable (_ ∧ _))

/-- The time that `Date.parse` reads. `other` is the implementation's reading of the texts that are
not in the standard format. -/
def parse (other : String → Option Int) (text : String) : Option Int :=
  ((parseIso text.toList).orElse fun _ => other text).filter fun t => InRange t

/-! ## Reading what was written -/

theorem readYear_yearText {year : Int} (hy : year.natAbs < 10 ^ 6) (rest : List Char) :
    readYear (yearText year ++ rest) = some (year, rest) := by
  unfold yearText
  split
  · next h =>
    have hd : Nat.digitChar (year.toNat / 10 ^ 3 % 10) ≠ '+' ∧
        Nat.digitChar (year.toNat / 10 ^ 3 % 10) ≠ '-' := by
      have ha : ∀ n < 10, Nat.digitChar n ≠ '+' ∧ Nat.digitChar n ≠ '-' := by decide
      exact ha _ (Nat.mod_lt _ (by omega))
    have hr := readDigits_digits 4 0 year.toNat rest
    rw [digits, List.cons_append] at hr ⊢
    rw [readYear, if_neg hd.1, if_neg hd.2, hr]
    simp only [Option.map_some, Option.some.injEq, Prod.mk.injEq, and_true]
    omega
  · next h =>
    split
    · next hn =>
      rw [List.cons_append, readYear, if_neg (by decide), if_pos rfl, readDigits_digits,
        Option.bind_some]
      dsimp only
      rw [if_neg (by omega)]
      simp only [Option.some.injEq, Prod.mk.injEq, and_true]
      omega
    · next hp =>
      rw [List.cons_append, readYear, if_pos rfl, readDigits_digits]
      simp only [Option.map_some, Option.some.injEq, Prod.mk.injEq, and_true]
      omega

theorem readField_sep (sep : Char) (absent : ℕ) {w : ℕ} (hn : n < 10 ^ w) (rest : List Char) :
    readField sep w absent (sep :: (digits w n ++ rest)) = some (n, rest) := by
  rw [readField, if_pos rfl, readDigits_digits, Nat.zero_mul, Nat.zero_add, Nat.mod_eq_of_lt hn]

theorem readDigits_of_lt {w : ℕ} (hn : n < 10 ^ w) (rest : List Char) :
    readDigits w 0 (digits w n ++ rest) = some (n, rest) := by
  rw [readDigits_digits, Nat.zero_mul, Nat.zero_add, Nat.mod_eq_of_lt hn]

theorem daysInMonth_le (leap : Bool) (month : ℕ) : daysInMonth leap month ≤ 31 := by
  unfold daysInMonth
  rcases Nat.lt_or_ge (month - 1) 12 with hl | hg
  · have ha : ∀ leap : Bool, ∀ n < 12, (monthLengths leap).getD n 0 ≤ 31 := by decide
    exact ha leap _ hl
  · rw [List.getD_eq_getElem?_getD, List.getElem?_eq_none hg]
    exact Nat.zero_le _

theorem Fields.Valid.width {f : Fields} (hf : f.Valid) :
    f.month < 10 ^ 2 ∧ f.day < 10 ^ 2 ∧ f.hour < 10 ^ 2 ∧ f.minute < 10 ^ 2 ∧ f.second < 10 ^ 2 ∧
      f.milli < 10 ^ 3 := by
  have hd := Nat.le_trans hf.day_le (daysInMonth_le (isLeapYear f.year) f.month)
  refine ⟨Nat.lt_of_le_of_lt hf.month_le ?_, Nat.lt_of_le_of_lt hd ?_, Nat.lt_trans hf.hour ?_,
    Nat.lt_trans hf.minute ?_, Nat.lt_trans hf.second ?_, hf.milli⟩
  all_goals decide

theorem timeOf?_of_valid {f : Fields} (hf : f.Valid) : timeOf? f = some (timeOf f) := by
  have hh := hf.hour
  unfold timeOf?
  rw [if_neg (show ¬ (f.hour = 24 ∧ _) from fun h => absurd h.1 (by omega))]
  exact if_pos ⟨hf.month_pos, hf.month_le, hf.day_pos, hf.day_le, hf.hour, hf.minute, hf.second,
    hf.milli⟩

theorem parseIso_isoText {f : Fields} (hf : f.Valid) (hy : f.year.natAbs < 10 ^ 6) :
    parseIso (isoText f) = some (timeOf f) := by
  obtain ⟨hmo, hd, hh, hm, hs, hml⟩ := hf.width
  unfold parseIso isoText
  rw [readYear_yearText hy]
  simp only [Option.bind_eq_bind, Option.bind_some, readField_sep _ _ hmo,
    readField_sep _ _ hd, readDigits_of_lt hh, readField_sep _ _ hm, readSeconds,
    readDigits_of_lt hs, readField_sep _ _ hml, readOffset, timeOf?_of_valid hf, pure,
    Int.sub_zero]

theorem natAbs_year_lt {t : Int} (h : InRange t) : (fieldsOf t).year.natAbs < 10 ^ 6 := by
  obtain ⟨hmi, hm⟩ := h
  obtain ⟨hl, hlt⟩ := yearOf_spec (t / 86400000 + 719528)
  show (yearOf (t / 86400000 + 719528)).natAbs < 10 ^ 6
  unfold MAX_TIME at hmi hm
  unfold daysBeforeYear at hl hlt
  omega

theorem parse_toISOString (other : String → Option Int) {t : Int} (h : InRange t) :
    parse other (toISOString t) = some t := by
  unfold parse toISOString
  rw [String.toList_ofList, parseIso_isoText (fieldsOf_valid t) (natAbs_year_lt h),
    timeOf_fieldsOf]
  exact Option.filter_some_pos (decide_eq_true h)

example : toISOString 1781222400000 = "2026-06-12T00:00:00.000Z" := by decide

example : parse (fun _ => none) "2026-06-12T01:30+01:30" = some 1781222400000 := by decide

/-! ## Comparing texts -/

def FourDigitYear (t : Int) : Prop := 0 ≤ (fieldsOf t).year ∧ (fieldsOf t).year ≤ 9999

theorem cons_digits_lt_iff {w m : ℕ} (hm : m < 10 ^ w) (hn : n < 10 ^ w) (sep : Char)
    (x y : List Char) :
    sep :: (digits w m ++ x) < sep :: (digits w n ++ y) ↔ m < n ∨ m = n ∧ x < y := by
  rw [List.cons_lt_cons_iff, digits_append_lt_iff hm hn]
  simp

theorem toISOString_lt_iff {s t : Int} (hs : FourDigitYear s) (ht : FourDigitYear t) :
    toISOString s < toISOString t ↔ s < t := by
  obtain ⟨hmo, hd, hh, hm, hse, hml⟩ := (fieldsOf_valid s).width
  obtain ⟨hmo', hd', hh', hm', hse', hml'⟩ := (fieldsOf_valid t).width
  have hye : (fieldsOf s).year.toNat < 10 ^ 4 ∧ (fieldsOf t).year.toNat < 10 ^ 4 := by
    obtain ⟨-, hs⟩ := hs
    obtain ⟨-, ht⟩ := ht
    omega
  have hy : ((fieldsOf s).year.toNat < (fieldsOf t).year.toNat ↔
        (fieldsOf s).year < (fieldsOf t).year) ∧
      ((fieldsOf s).year.toNat = (fieldsOf t).year.toNat ↔
        (fieldsOf s).year = (fieldsOf t).year) := by
    obtain ⟨hs, -⟩ := hs
    obtain ⟨ht, -⟩ := ht
    omega
  unfold FourDigitYear at hs ht
  rw [← fieldsOf_earlier_iff, toISOString, toISOString, String.lt_iff_toList_lt,
    String.toList_ofList, String.toList_ofList, isoText, isoText, yearText, yearText, if_pos hs,
    if_pos ht, digits_append_lt_iff hye.1 hye.2, cons_digits_lt_iff hmo hmo',
    cons_digits_lt_iff hd hd', cons_digits_lt_iff hh hh',
    cons_digits_lt_iff hm hm', cons_digits_lt_iff hse hse',
    cons_digits_lt_iff hml hml', hy.1, hy.2, Fields.Earlier]
  simp

example : toISOString 253402300800000 < toISOString 1781222400000 := by decide

end JsDate
