import Mathlib.Data.Char
import Mathlib.Data.List.Lex
import SwapArchive.Proofs.Calendar

/-!
# The order of dates and names

A later day has a later date: a later year, or a later month of it, or a later day of that. The
names of days in years of four digits have all their digits in the same places, so that they are in
the order of time.
-/

namespace SwapArchive

/-- **The order of dates**: by year, then by month, then by day of the month. -/
def Date.Before (first second : Date) : Prop :=
  first.year < second.year ∨ first.year = second.year ∧ (first.month < second.month ∨
    first.month = second.month ∧ first.dayOfMonth < second.dayOfMonth)

/-- The months up to that of a date, counted from the start of the year zero. -/
def Date.months (date : Date) : Int := date.year * 12 + date.month

/-- Dates in order by their months and by the day of the month are in order. -/
theorem Date.before_of_months {first second : Date} (hFirst : 1 ≤ first.month ∧ first.month ≤ 12)
    (hSecond : 1 ≤ second.month ∧ second.month ≤ 12)
    (h : first.months < second.months ∨
      first.months = second.months ∧ first.dayOfMonth < second.dayOfMonth) :
    first.Before second := by
  unfold months at h
  unfold Before
  omega

namespace Day

variable {d e : Day}

/-- **The parts of a date**: a span of four hundred years, a year of the span, and a day of the
year, which begins in March. -/
theorem exists_parts (d : Day) : ∃ (span : Int) (n year day : Nat),
    d.number + 719468 = span * 146097 + n ∧ n < 146097 ∧
    year = (n - n / 1460 + n / 36524 - n / 146096) / 365 ∧ year < 400 ∧
    n = 365 * year + year / 4 - year / 100 + day ∧ day < 366 ∧
    d.date.months = (span * 400 + year) * 12 + ((5 * day + 2) / 153 + 3 : Nat) ∧
    d.date.dayOfMonth = day - (153 * ((5 * day + 2) / 153) + 2) / 5 + 1 ∧
    1 ≤ d.date.month ∧ d.date.month ≤ 12 := by
  obtain ⟨number⟩ := d
  have hNumber : number + 719468
      = (number + 719468) / 146097 * 146097 + ((number + 719468) % 146097).toNat := by omega
  have hRange : ((number + 719468) % 146097).toNat < 146097 := by omega
  dsimp only [Date.months, date]
  generalize (number + 719468) / 146097 = span at *
  generalize ((number + 719468) % 146097).toNat = n at *
  obtain ⟨hYear, hBefore, hDay⟩ := yearOfSpan_spec hRange rfl
  generalize hYearOf : (n - n / 1460 + n / 36524 - n / 146096) / 365 = year at *
  have hSum : n = 365 * year + year / 4 - year / 100
      + (n - (365 * year + year / 4 - year / 100)) := by omega
  generalize n - (365 * year + year / 4 - year / 100) = day at *
  obtain ⟨hMonth, -, -⟩ := monthOfYear_spec hDay rfl
  refine ⟨span, n, year, day, hNumber, hRange, hYearOf.symm, hYear, hSum, hDay, ?_⟩
  generalize (5 * day + 2) / 153 = month at *
  -- January and February belong to the year that began in the March before.
  by_cases hSpring : month < 10
  · have hNumber : ¬ month + 3 ≤ 2 := by omega
    simp only [hSpring, hNumber, if_true, if_false, true_and]
    omega
  · have hNumber : month - 9 ≤ 2 := by omega
    simp only [hSpring, hNumber, if_true, if_false, true_and]
    omega

theorem yearOfSpan_mono {m n : Nat} (h : m ≤ n) (hn : n < 146097) :
    (m - m / 1460 + m / 36524 - m / 146096) / 365
      ≤ (n - n / 1460 + n / 36524 - n / 146096) / 365 :=
  Nat.div_le_div_right (by omega)

/-- **A later day has a later date.** -/
theorem date_before (h : d.number < e.number) : d.date.Before e.date := by
  obtain ⟨span, n, year, day, hNumber, hn, hYear, hYearLt, hSum, hDay, hMonths, hDate, hMonth⟩ :=
    d.exists_parts
  obtain ⟨span', n', year', day', hNumber', hn', hYear', hYearLt', hSum', hDay', hMonths', hDate',
    hMonth'⟩ := e.exists_parts
  refine Date.before_of_months hMonth hMonth' ?_
  rw [hMonths, hMonths', hDate, hDate']
  -- The first part that differs decides, from the span down to the day of the month.
  obtain hSpan | rfl : span < span' ∨ span = span' := by omega
  · omega
  have hYears : year ≤ year' := by
    rw [hYear, hYear']
    exact yearOfSpan_mono (by omega) hn'
  obtain hLess | rfl : year < year' ∨ year = year' := by omega
  · omega
  have hDays : day < day' := by omega
  omega

end Day

section Texts

variable {cs ds us vs : List Char} {width m n : Nat}

/-- Texts of one length decide, whatever follows them. -/
theorem append_lt_append (hLength : cs.length = ds.length) (h : cs < ds) :
    cs ++ us < ds ++ vs := by
  induction cs generalizing ds with
  | nil =>
    obtain rfl := List.eq_nil_of_length_eq_zero hLength.symm
    exact absurd h (List.lt_irrefl _)
  | cons c cs ih =>
    obtain ⟨d, ds, rfl⟩ := List.exists_cons_of_length_eq_add_one hLength.symm
    rw [List.cons_append, List.cons_append, List.cons_lt_cons_iff]
    rcases List.cons_lt_cons_iff.1 h with hFirst | ⟨rfl, hRest⟩
    · exact .inl hFirst
    · exact .inr ⟨rfl, ih (Nat.succ.inj hLength) hRest⟩

theorem digit_range {c : Char} (h : c.isDigit = true) : 48 ≤ c.toNat ∧ c.toNat ≤ 57 :=
  Char.isDigit_iff_toNat.1 h

theorem ofDigitChars_lt_pow (h : ∀ c ∈ cs, c.isDigit = true) :
    Nat.ofDigitChars 10 cs 0 < 10 ^ cs.length := by
  induction cs with
  | nil => simp
  | cons c cs ih =>
    rw [List.forall_mem_cons] at h
    have hRest := ih h.2
    have hDigit := digit_range h.1
    have hZero : '0'.toNat = 48 := rfl
    have hFirst := Nat.mul_le_mul_left (10 ^ cs.length) (show c.toNat - 48 ≤ 9 by omega)
    rw [Nat.ofDigitChars_cons, Nat.ofDigitChars_eq_ofDigitChars_zero, List.length_cons,
      Nat.pow_succ, hZero, Nat.mul_zero, Nat.zero_add]
    omega

/-- Digits that come first count more than all that follow. -/
theorem ofDigitChars_lt (hLength : cs.length = ds.length) (hc : ∀ c ∈ cs, c.isDigit = true)
    (hd : ∀ c ∈ ds, c.isDigit = true) (h : cs < ds) :
    Nat.ofDigitChars 10 cs 0 < Nat.ofDigitChars 10 ds 0 := by
  induction cs generalizing ds with
  | nil =>
    obtain rfl := List.eq_nil_of_length_eq_zero hLength.symm
    exact absurd h (List.lt_irrefl _)
  | cons c cs ih =>
    obtain ⟨d, ds, rfl⟩ := List.exists_cons_of_length_eq_add_one hLength.symm
    have hSame : cs.length = ds.length := Nat.succ.inj hLength
    rw [List.forall_mem_cons] at hc hd
    have hZero : '0'.toNat = 48 := rfl
    rw [Nat.ofDigitChars_cons, Nat.ofDigitChars_cons, Nat.ofDigitChars_eq_ofDigitChars_zero,
      Nat.ofDigitChars_eq_ofDigitChars_zero (l := ds), ← hSame, hZero, Nat.mul_zero, Nat.zero_add,
      Nat.zero_add]
    rcases List.cons_lt_cons_iff.1 h with hFirst | ⟨rfl, hRest⟩
    · -- The first digit weighs more than all that come after it.
      have hLess : c.toNat < d.toNat := hFirst
      have hDigit := digit_range hc.1
      have hBelow := ofDigitChars_lt_pow hc.2
      have hStep := Nat.mul_le_mul_left (10 ^ cs.length)
        (show c.toNat - 48 + 1 ≤ d.toNat - 48 by omega)
      rw [Nat.mul_succ] at hStep
      omega
    · exact Nat.add_lt_add_left (ih hSame hc.2 hd.2 hRest) _

/-- **Numbers with one number of digits** are ordered as their texts. -/
theorem padded_lt (hWidth : 0 < width) (h : m < n) (hn : n < 10 ^ width) :
    padded width m < padded width n := by
  have hLength : (padded width n).length = (padded width m).length := by
    rw [length_padded hWidth hn, length_padded hWidth (Nat.lt_trans h hn)]
  rcases lt_trichotomy (padded width m) (padded width n) with hLess | hSame | hGreater
  · exact hLess
  · exact absurd (padded_injective hSame) (Nat.ne_of_lt h)
  · have hValues := ofDigitChars_lt hLength (fun c hc => isDigit_of_mem_padded hc)
      (fun c hc => isDigit_of_mem_padded hc) hGreater
    rw [value_padded, value_padded] at hValues
    exact absurd hValues (Nat.lt_asymm h)

end Texts

namespace Day

variable {d e : Day}

/-- **A day in a year of four digits.** -/
def HasPlainYear (d : Day) : Prop := 0 ≤ d.date.year ∧ d.date.year ≤ 9999

theorem HasPlainYear.nameChars_eq (h : d.HasPlainYear) : d.nameChars = padded 4 d.date.year.toNat
    ++ '-' :: (padded 2 d.date.month ++ '-' :: padded 2 d.date.dayOfMonth) := by
  have hYear : writeYear d.date.year = padded 4 d.date.year.toNat := if_pos h
  simp only [nameChars, hYear, List.append_assoc, List.cons_append]

theorem HasPlainYear.length_nameChars (h : d.HasPlainYear) : d.nameChars.length = 10 := by
  have hYear : (padded 4 d.date.year.toNat).length = 4 := by
    refine length_padded (by decide) ?_
    unfold HasPlainYear at h
    omega
  simp only [h.nameChars_eq, List.length_append, List.length_cons, hYear, length_month,
    length_dayOfMonth]

/-- **The names of days are in the order of time**, as long as the years have four digits. -/
theorem nameChars_lt (hd : d.HasPlainYear) (he : e.HasPlainYear) (h : d.number < e.number) :
    d.nameChars < e.nameChars := by
  have hYears : d.date.year.toNat < 10 ^ 4 ∧ e.date.year.toNat < 10 ^ 4 := by
    unfold HasPlainYear at hd he
    omega
  have hMonth : e.date.month < 10 ^ 2 := Nat.lt_of_le_of_lt e.date_spec.month_le (by decide)
  have hDay : e.date.dayOfMonth < 10 ^ 2 :=
    Nat.lt_of_le_of_lt e.date_spec.dayOfMonth_le (by decide)
  rw [hd.nameChars_eq, he.nameChars_eq]
  -- The fields have fixed widths, so the first field that differs decides.
  rcases date_before h with hYear | ⟨hYear, hLater⟩
  · refine append_lt_append ?_ (padded_lt (by decide) ?_ hYears.2)
    · rw [length_padded (by decide) hYears.1, length_padded (by decide) hYears.2]
    · unfold HasPlainYear at hd he
      omega
  rw [hYear]
  refine List.append_left_lt (List.cons_lt_cons_iff.2 (.inr ⟨rfl, ?_⟩))
  rcases hLater with hEarlier | ⟨hSame, hEarlier⟩
  · exact append_lt_append (d.length_month.trans e.length_month.symm)
      (padded_lt (by decide) hEarlier hMonth)
  rw [hSame]
  refine List.append_left_lt (List.cons_lt_cons_iff.2 (.inr ⟨rfl, ?_⟩))
  exact padded_lt (by decide) hEarlier hDay

end Day
end SwapArchive
