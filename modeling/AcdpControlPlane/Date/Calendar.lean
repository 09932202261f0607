import Mathlib

/-!
# Times and calendar fields

A time value counts milliseconds from the start of 1970, in UTC and without leap seconds. Its calendar
fields are those of the Gregorian calendar, extended to all years. Both directions are computed here;
a time is recovered from its fields, and later times have later fields.
-/

namespace JsDate

/-! ## Years -/

def daysBeforeYear (year : Int) : Int :=
  365 * year + (year + 3) / 4 - (year + 99) / 100 + (year + 399) / 400

def isLeapYear (year : Int) : Bool := year % 4 = 0 && (year % 100 ≠ 0 || year % 400 = 0)

def yearLength (leap : Bool) : ℕ := if leap then 366 else 365

def yearOf (day : Int) : Int :=
  let guess := 400 * day / 146097
  if day < daysBeforeYear guess then guess - 1
  else if daysBeforeYear (guess + 1) ≤ day then guess + 1
  else guess

theorem yearOf_spec (day : Int) :
    daysBeforeYear (yearOf day) ≤ day ∧ day < daysBeforeYear (yearOf day + 1) := by
  unfold yearOf
  dsimp only
  split
  · next hb =>
    rw [Int.sub_add_cancel]
    refine ⟨?_, hb⟩
    unfold daysBeforeYear
    omega
  · next hf =>
    split
    · next ha =>
      refine ⟨ha, ?_⟩
      unfold daysBeforeYear
      omega
    · next hw => exact ⟨Int.not_lt.mp hf, Int.not_le.mp hw⟩

theorem daysBeforeYear_succ (year : Int) :
    daysBeforeYear (year + 1) = daysBeforeYear year + yearLength (isLeapYear year) := by
  unfold daysBeforeYear isLeapYear yearLength
  by_cases h4 : year % 4 = 0 <;> by_cases h100 : year % 100 = 0 <;>
    by_cases h400 : year % 400 = 0 <;> simp [h4, h100, h400] <;> omega

theorem daysBeforeYear_mono {a b : Int} (h : a ≤ b) : daysBeforeYear a ≤ daysBeforeYear b := by
  unfold daysBeforeYear
  omega

/-! ## Months -/

def monthLengths (leap : Bool) : List ℕ :=
  [31, if leap then 29 else 28, 31, 30, 31, 30, 31, 31, 30, 31, 30, 31]

def daysInMonth (leap : Bool) (month : ℕ) : ℕ := (monthLengths leap).getD (month - 1) 0

def daysBeforeMonth (leap : Bool) (month : ℕ) : ℕ := ((monthLengths leap).take (month - 1)).sum

def monthOf (leap : Bool) (dayOfYear : ℕ) : ℕ :=
  ((List.range 12).takeWhile fun n => daysBeforeMonth leap (n + 1) ≤ dayOfYear).length

theorem monthOf_spec (leap : Bool) {dayOfYear : ℕ} (h : dayOfYear < yearLength leap) :
    (1 ≤ monthOf leap dayOfYear ∧ monthOf leap dayOfYear ≤ 12) ∧
      daysBeforeMonth leap (monthOf leap dayOfYear) ≤ dayOfYear ∧
      dayOfYear < daysBeforeMonth leap (monthOf leap dayOfYear) +
        daysInMonth leap (monthOf leap dayOfYear) := by
  have ha : ∀ leap : Bool, ∀ day < yearLength leap,
      (1 ≤ monthOf leap day ∧ monthOf leap day ≤ 12) ∧
        daysBeforeMonth leap (monthOf leap day) ≤ day ∧
        day < daysBeforeMonth leap (monthOf leap day) + daysInMonth leap (monthOf leap day) := by
    decide +kernel
  exact ha leap dayOfYear h

theorem daysBeforeMonth_add_le (leap : Bool) {m n : ℕ} (hm : 1 ≤ m) (hmn : m < n) (hn : n ≤ 12) :
    daysBeforeMonth leap m + daysInMonth leap m ≤ daysBeforeMonth leap n := by
  have ha : ∀ leap : Bool, ∀ n < 13, ∀ m < n, 1 ≤ m →
      daysBeforeMonth leap m + daysInMonth leap m ≤ daysBeforeMonth leap n := by
    decide
  exact ha leap n (Nat.lt_succ_of_le hn) m hmn hm

theorem daysBeforeMonth_add_le_year (leap : Bool) {m : ℕ} (hm : 1 ≤ m) (hl : m ≤ 12) :
    daysBeforeMonth leap m + daysInMonth leap m ≤ yearLength leap := by
  have ha : ∀ leap : Bool, ∀ m < 13, 1 ≤ m →
      daysBeforeMonth leap m + daysInMonth leap m ≤ yearLength leap := by
    decide
  exact ha leap m (Nat.lt_succ_of_le hl) hm

/-! ## Fields -/

structure Fields where
  year : Int
  month : ℕ
  day : ℕ
  hour : ℕ
  minute : ℕ
  second : ℕ
  milli : ℕ
deriving DecidableEq, Repr

structure Fields.Valid (f : Fields) : Prop where
  month_pos : 1 ≤ f.month
  month_le : f.month ≤ 12
  day_pos : 1 ≤ f.day
  day_le : f.day ≤ daysInMonth (isLeapYear f.year) f.month
  hour : f.hour < 24
  minute : f.minute < 60
  second : f.second < 60
  milli : f.milli < 1000

def Fields.Earlier (f g : Fields) : Prop :=
  f.year < g.year ∨ f.year = g.year ∧ (f.month < g.month ∨ f.month = g.month ∧
    (f.day < g.day ∨ f.day = g.day ∧ (f.hour < g.hour ∨ f.hour = g.hour ∧
      (f.minute < g.minute ∨ f.minute = g.minute ∧ (f.second < g.second ∨ f.second = g.second ∧
        f.milli < g.milli)))))

def dayOf (f : Fields) : Int :=
  daysBeforeYear f.year + daysBeforeMonth (isLeapYear f.year) f.month + f.day - 1

def milliOfDay (f : Fields) : ℕ :=
  ((f.hour * 60 + f.minute) * 60 + f.second) * 1000 + f.milli

def timeOf (f : Fields) : Int := (dayOf f - 719528) * 86400000 + milliOfDay f

def fieldsOf (t : Int) : Fields :=
  let day := t / 86400000 + 719528
  let milli := (t % 86400000).toNat
  let year := yearOf day
  let dayOfYear := (day - daysBeforeYear year).toNat
  let month := monthOf (isLeapYear year) dayOfYear
  ⟨year, month, dayOfYear - daysBeforeMonth (isLeapYear year) month + 1, milli / 3600000,
    milli / 60000 % 60, milli / 1000 % 60, milli % 1000⟩

theorem dayOfYear_lt (day : Int) :
    (day - daysBeforeYear (yearOf day)).toNat < yearLength (isLeapYear (yearOf day)) := by
  obtain ⟨hle, hl⟩ := yearOf_spec day
  rw [daysBeforeYear_succ] at hl
  omega

theorem fieldsOf_valid (t : Int) : (fieldsOf t).Valid := by
  obtain ⟨⟨hp, hm⟩, hf, ht⟩ := monthOf_spec _ (dayOfYear_lt (t / 86400000 + 719528))
  refine ⟨hp, hm, Nat.le_add_left 1 _, ?_, ?_, ?_, ?_, ?_⟩
  all_goals dsimp only [fieldsOf]
  all_goals omega

theorem timeOf_fieldsOf (t : Int) : timeOf (fieldsOf t) = t := by
  obtain ⟨hl, -⟩ := yearOf_spec (t / 86400000 + 719528)
  obtain ⟨-, hf, -⟩ := monthOf_spec _ (dayOfYear_lt (t / 86400000 + 719528))
  dsimp only [timeOf, dayOf, milliOfDay, fieldsOf]
  omega

theorem dayOf_bounds {f : Fields} (hf : f.Valid) :
    daysBeforeYear f.year ≤ dayOf f ∧ dayOf f < daysBeforeYear (f.year + 1) := by
  have hl := daysBeforeMonth_add_le_year (isLeapYear f.year) hf.month_pos hf.month_le
  have hp := hf.day_pos
  have hle := hf.day_le
  rw [daysBeforeYear_succ]
  unfold dayOf
  omega

theorem milliOfDay_lt {f : Fields} (hf : f.Valid) : milliOfDay f < 86400000 := by
  have hh := hf.hour
  have hm := hf.minute
  have hs := hf.second
  have hml := hf.milli
  unfold milliOfDay
  omega

theorem timeOf_lt_timeOf {f g : Fields} (hf : f.Valid) (hg : g.Valid) (h : f.Earlier g) :
    timeOf f < timeOf g := by
  have hmf := milliOfDay_lt hf
  -- a field before the hour decides the day, the others decide within it
  have hd : dayOf f < dayOf g ∨ dayOf f = dayOf g ∧ milliOfDay f < milliOfDay g := by
    rcases h with hy | ⟨hy, hm | ⟨hm, hd | ⟨hd, ht⟩⟩⟩
    · refine Or.inl ?_
      have hye := daysBeforeYear_mono (show f.year + 1 ≤ g.year from hy)
      exact Int.lt_of_lt_of_le (dayOf_bounds hf).2 (Int.le_trans hye (dayOf_bounds hg).1)
    · refine Or.inl ?_
      have hmon := daysBeforeMonth_add_le (isLeapYear f.year) hf.month_pos hm hg.month_le
      have hl := hf.day_le
      have hp := hg.day_pos
      unfold dayOf
      rw [← hy]
      omega
    · refine Or.inl ?_
      unfold dayOf
      rw [hy, hm]
      omega
    · refine Or.inr ⟨?_, ?_⟩
      · unfold dayOf
        rw [hy, hm, hd]
      · have := hf.minute
        have := hf.second
        have := hf.milli
        unfold milliOfDay
        omega
  unfold timeOf
  omega

theorem Fields.eq_of_not_earlier {f g : Fields} (hf : ¬ f.Earlier g) (hg : ¬ g.Earlier f) :
    f = g := by
  obtain ⟨y, m, d, h, min, s, ms⟩ := f
  obtain ⟨y', m', d', h', min', s', ms'⟩ := g
  simp only [Fields.Earlier] at hf hg
  simp only [Fields.mk.injEq]
  omega

theorem fieldsOf_earlier_iff {s t : Int} : (fieldsOf s).Earlier (fieldsOf t) ↔ s < t := by
  constructor
  · intro h
    have := timeOf_lt_timeOf (fieldsOf_valid s) (fieldsOf_valid t) h
    rwa [timeOf_fieldsOf, timeOf_fieldsOf] at this
  · intro h
    by_contra hs
    by_cases ht : (fieldsOf t).Earlier (fieldsOf s)
    · have := timeOf_lt_timeOf (fieldsOf_valid t) (fieldsOf_valid s) ht
      rw [timeOf_fieldsOf, timeOf_fieldsOf] at this
      omega
    · have := congrArg timeOf (Fields.eq_of_not_earlier hs ht)
      rw [timeOf_fieldsOf, timeOf_fieldsOf] at this
      omega

end JsDate
