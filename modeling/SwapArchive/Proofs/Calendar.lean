import Mathlib.Algebra.Group.Nat.Defs
import SwapArchive.Calendar

/-!
# Days and their names

The date of a day leads back to the day, and the text of a date leads back to the date, so that no
two days have one name. The days whose seconds all have dates have years of six digits at most, so
that their names are short.
-/

namespace SwapArchive

namespace Day

variable {d e : Day}

/-- The year that a day of a span of four hundred years falls into, and the days before it. -/
theorem yearOfSpan_spec {n year : Nat} (h : n < 146097)
    (hYear : year = (n - n / 1460 + n / 36524 - n / 146096) / 365) :
    year < 400 ∧ 365 * year + year / 4 - year / 100 ≤ n ∧
      n - (365 * year + year / 4 - year / 100) < 366 := by
  obtain hLast | hEarly : n / 146096 = 1 ∨ n / 146096 = 0 := by omega
  · obtain rfl : n = 146096 := by omega
    omega
  · have hCentury : year / 100 = n / 36524 := by
      obtain h | h | h | h : n / 36524 = 0 ∨ n / 36524 = 1 ∨ n / 36524 = 2 ∨ n / 36524 = 3 := by
        omega
      all_goals omega
    rw [hCentury]
    exact ⟨by omega, by omega, by omega⟩

/-- The month that a day of a year from March on falls into, and the days before it. -/
theorem monthOfYear_spec {n month : Nat} (h : n < 366) (hMonth : month = (5 * n + 2) / 153) :
    month < 12 ∧ (153 * month + 2) / 5 ≤ n ∧ n - (153 * month + 2) / 5 < 31 := by
  omega

/-- What is true of the date of a day: the day of it is that day, and month and day of the month
are in their ranges. -/
structure DateSpec (d : Day) (date : Date) : Prop where
  day : date.day = d
  month_le : date.month ≤ 12
  dayOfMonth_le : date.dayOfMonth ≤ 31

/-- **The date of a day** leads back to the day. -/
theorem date_spec (d : Day) : DateSpec d d.date := by
  obtain ⟨number⟩ := d
  dsimp only [date]
  have hSpan : number
      = (number + 719468) / 146097 * 146097 + ((number + 719468) % 146097).toNat - 719468 := by
    omega
  have hRange : ((number + 719468) % 146097).toNat < 146097 := by omega
  generalize (number + 719468) / 146097 = span at *
  generalize ((number + 719468) % 146097).toNat = n at *
  obtain ⟨hYear, hBefore, hDay⟩ := yearOfSpan_spec hRange rfl
  generalize (n - n / 1460 + n / 36524 - n / 146096) / 365 = year at *
  have hDays : n = 365 * year + year / 4 - year / 100
      + (n - (365 * year + year / 4 - year / 100)) := by omega
  generalize n - (365 * year + year / 4 - year / 100) = dayOfYear at *
  obtain ⟨hMonth, hEarly, hLate⟩ := monthOfYear_spec hDay rfl
  generalize (5 * dayOfYear + 2) / 153 = month at *
  have hSpanOf : (span * 400 + (year : Int)) / 400 = span := by omega
  have hYearOf : ((span * 400 + (year : Int)) % 400).toNat = year := by omega
  have hDayOf : (153 * month + 2) / 5 + (dayOfYear - (153 * month + 2) / 5 + 1) - 1
      = dayOfYear := by omega
  -- January and February belong to the year that began in the March before.
  by_cases hSpring : month < 10
  · have hNumber : ¬ month + 3 ≤ 2 := by omega
    refine ⟨?_, ?_, by dsimp only; omega⟩
    · simp only [Date.day, hSpring, hNumber, Nat.lt_of_not_le hNumber, if_true, if_false,
        Nat.add_sub_cancel, hSpanOf, hYearOf, hDayOf]
      congr 1
      omega
    · dsimp only
      rw [if_pos hSpring]
      omega
  · have hNumber : month - 9 ≤ 2 := by omega
    have hMonthOf : month - 9 + 9 = month := by omega
    refine ⟨?_, ?_, by dsimp only; omega⟩
    · simp only [Date.day, hSpring, hNumber, Nat.not_lt.2 hNumber, if_true, if_false,
        Int.add_sub_cancel, hMonthOf, hSpanOf, hYearOf, hDayOf]
      congr 1
      omega
    · dsimp only
      rw [if_neg hSpring]
      omega

theorem day_date (d : Day) : d.date.day = d := d.date_spec.day

theorem date_injective (h : d.date = e.date) : d = e := by
  rw [← d.day_date, h, e.day_date]

end Day

section Digits

variable {width m n : Nat} {c : Char}

/-- The number that the digits of a number stand for. -/
theorem value_padded (width n : Nat) : Nat.ofDigitChars 10 (padded width n) 0 = n := by
  simp [padded, Nat.toString_eq_repr, Nat.ofDigitChars_append]

theorem padded_injective (h : padded width m = padded width n) : m = n := by
  rw [← value_padded width m, h, value_padded]

theorem isDigit_of_mem_padded (h : c ∈ padded width n) : c.isDigit = true := by
  rw [padded, List.mem_append] at h
  rcases h with hZero | hDigit
  · obtain ⟨-, rfl⟩ := List.mem_replicate.1 hZero
    rfl
  · rw [Nat.toString_eq_repr, Nat.toList_repr] at hDigit
    exact Nat.isDigit_of_mem_toDigits (by decide) (by decide) hDigit

/-- A number has no more digits than it needs, or than there are places. -/
theorem length_padded_le {digits : Nat} (hWidth : width ≤ digits) (hDigits : 0 < digits)
    (h : n < 10 ^ digits) : (padded width n).length ≤ digits := by
  have hLength : (toString n).toList.length ≤ digits := by
    rw [Nat.toString_eq_repr, Nat.toList_repr]
    exact (Nat.length_toDigits_le_iff (by decide) hDigits).2 h
  simp only [padded, List.length_append, List.length_replicate]
  omega

/-- A number that needs no more digits than there are places has one digit in each. -/
theorem length_padded (hWidth : 0 < width) (h : n < 10 ^ width) :
    (padded width n).length = width := by
  refine Nat.le_antisymm (length_padded_le (Nat.le_refl _) hWidth h) ?_
  simp only [padded, List.length_append, List.length_replicate]
  omega

/-- A character of the text of a date. -/
def IsDateChar (c : Char) : Prop := c.isDigit = true ∨ c = '-' ∨ c = '+'

instance : Decidable (IsDateChar c) :=
  inferInstanceAs (Decidable (c.isDigit = true ∨ c = '-' ∨ c = '+'))

theorem isDateChar_of_mem_writeYear {year : Int} (h : c ∈ writeYear year) : IsDateChar c := by
  unfold writeYear at h
  split at h
  · exact .inl (isDigit_of_mem_padded h)
  · rcases List.mem_cons.1 h with hSign | hDigit
    · subst hSign
      split
      · exact .inr (.inl rfl)
      · exact .inr (.inr rfl)
    · exact .inl (isDigit_of_mem_padded hDigit)

/-- A year without a sign does not read like one with a sign. -/
private theorem padded_ne_signed {sign : Char} (hSign : sign.isDigit = false) (cs : List Char) :
    padded width n ≠ sign :: cs := by
  intro h
  have hDigit : sign.isDigit = true := isDigit_of_mem_padded (h ▸ List.mem_cons_self)
  rw [hSign] at hDigit
  cases hDigit

private theorem sign_isDigit (year : Int) : (if year < 0 then '-' else '+').isDigit = false := by
  split <;> rfl

theorem writeYear_injective {year year' : Int} (h : writeYear year = writeYear year') :
    year = year' := by
  unfold writeYear at h
  -- A year in four digits and one with a sign differ in their first character.
  by_cases hPlain : 0 ≤ year ∧ year ≤ 9999 <;> by_cases hPlain' : 0 ≤ year' ∧ year' ≤ 9999
  · rw [if_pos hPlain, if_pos hPlain'] at h
    have hSize := padded_injective h
    omega
  · rw [if_pos hPlain, if_neg hPlain'] at h
    exact absurd h (padded_ne_signed (sign_isDigit year') _)
  · rw [if_neg hPlain, if_pos hPlain'] at h
    exact absurd h.symm (padded_ne_signed (sign_isDigit year) _)
  · rw [if_neg hPlain, if_neg hPlain'] at h
    obtain ⟨hSign, hDigits⟩ := List.cons.inj h
    have hSize := padded_injective hDigits
    have hNegative : year < 0 ↔ year' < 0 := by
      by_cases hYear : year < 0 <;> by_cases hYear' : year' < 0 <;> simp [hYear, hYear'] at hSign ⊢
    omega

end Digits

namespace Day

variable {d e : Day} {c : Char}

theorem length_month (d : Day) : (padded 2 d.date.month).length = 2 :=
  length_padded (by decide) (Nat.lt_of_le_of_lt d.date_spec.month_le (by decide))

theorem length_dayOfMonth (d : Day) : (padded 2 d.date.dayOfMonth).length = 2 :=
  length_padded (by decide) (Nat.lt_of_le_of_lt d.date_spec.dayOfMonth_le (by decide))

/-- **Different days have different names.** -/
theorem nameChars_injective (h : d.nameChars = e.nameChars) : d = e := by
  -- The last two parts have a fixed length, so that the parts can be told apart from the end on.
  simp only [nameChars] at h
  obtain ⟨hRest, hDays⟩ := List.append_inj' h (by simp [length_dayOfMonth])
  obtain ⟨hYear, hMonths⟩ := List.append_inj' hRest (by simp [length_month])
  refine date_injective ?_
  have hSame : d.date = ⟨d.date.year, d.date.month, d.date.dayOfMonth⟩ := rfl
  rw [hSame, writeYear_injective hYear, padded_injective (List.cons.inj hMonths).2,
    padded_injective (List.cons.inj hDays).2]

theorem isDateChar_of_mem_nameChars (h : c ∈ d.nameChars) : IsDateChar c := by
  simp only [nameChars, List.mem_append, List.mem_cons] at h
  rcases h with (hYear | rfl | hMonth) | rfl | hDay
  · exact isDateChar_of_mem_writeYear hYear
  · exact .inr (.inl rfl)
  · exact .inl (isDigit_of_mem_padded hMonth)
  · exact .inr (.inl rfl)
  · exact .inl (isDigit_of_mem_padded hDay)

/-- **Dated** days: every second of the day has a date. -/
def IsDated (d : Day) : Prop := firstTime ≤ d.start ∧ d.finish ≤ lastTime

/-- The year of a dated day has six digits at most. -/
theorem IsDated.natAbs_year_lt (h : d.IsDated) : d.date.year.natAbs < 10 ^ 6 := by
  obtain ⟨hFirst, hLast⟩ := h
  simp only [firstTime, lastTime, finish, start, secondsPerDay] at hFirst hLast
  have hRange : ((d.number + 719468) % 146097).toNat < 146097 := by omega
  obtain ⟨hYear, -, -⟩ := yearOfSpan_spec hRange rfl
  dsimp only [date]
  split <;> omega

/-- The name of a dated day is short. -/
theorem length_nameChars_le (h : d.IsDated) : d.nameChars.length ≤ 13 := by
  have hYear : (writeYear d.date.year).length ≤ 7 := by
    unfold writeYear
    split
    · rw [length_padded (by decide) (by omega)]
      decide
    · exact Nat.succ_le_succ (length_padded_le (by decide) (by decide) h.natAbs_year_lt)
  simp only [nameChars, List.length_append, List.length_cons, length_month, length_dayOfMonth]
  omega

end Day
end SwapArchive
