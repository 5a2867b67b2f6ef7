/-!
# Calendar

Times are whole seconds since the start of 1970, in universal time. A day is counted from the first
day of 1970, and its date follows the Gregorian rules in both directions without end.

## Design notes

A year is taken to begin in March. The leap day is then the last one of its year, and the lengths
of the months follow one rule. Four centuries are always the same number of days.
-/

namespace SwapArchive

/-- A day: the number of days since the first of January 1970. -/
structure Day where
  number : Int
  deriving DecidableEq, Repr, Inhabited

structure Date where
  year : Int
  month : Nat
  dayOfMonth : Nat
  deriving DecidableEq, Repr, Inhabited

def secondsPerDay : Int := 86400

/-- The first second with a date. -/
def firstTime : Int := -8334601228800

/-- The last second with a date. -/
def lastTime : Int := 8210266876799

namespace Day

/-- The day that a second falls into. -/
def ofTime (time : Int) : Day := ⟨time / secondsPerDay⟩

/-- The day that a second falls into, if the second has a date. -/
def ofTime? (time : Int) : Option Day :=
  if firstTime ≤ time ∧ time ≤ lastTime then some (ofTime time) else none

/-- The first second of a day. -/
def start (d : Day) : Int := d.number * secondsPerDay

/-- The last second of a day. -/
def finish (d : Day) : Int := d.start + secondsPerDay - 1

def previous (d : Day) : Day := ⟨d.number - 1⟩

/-- **Date of a day**. The number of days is split into spans of four hundred years, the years of
the span, and the days of the year from the first of March on. -/
def date (d : Day) : Date :=
  let shifted := d.number + 719468
  let span := shifted / 146097
  let dayOfSpan := (shifted % 146097).toNat
  -- Each fourth year has a leap day, of the hundredth years only the last.
  let yearOfSpan :=
    (dayOfSpan - dayOfSpan / 1460 + dayOfSpan / 36524 - dayOfSpan / 146096) / 365
  let dayOfYear := dayOfSpan - (365 * yearOfSpan + yearOfSpan / 4 - yearOfSpan / 100)
  -- From March on, five months at a time have 153 days.
  let monthOfYear := (5 * dayOfYear + 2) / 153
  let dayOfMonth := dayOfYear - (153 * monthOfYear + 2) / 5 + 1
  let month := if monthOfYear < 10 then monthOfYear + 3 else monthOfYear - 9
  let year := span * 400 + yearOfSpan
  ⟨if month ≤ 2 then year + 1 else year, month, dayOfMonth⟩

end Day

/-- **Day of a date**: the days of the spans of four hundred years, of the years of the span, of
the months of the year, and of the month. -/
def Date.day (d : Date) : Day :=
  let year := if d.month ≤ 2 then d.year - 1 else d.year
  let span := year / 400
  let yearOfSpan := (year % 400).toNat
  let monthOfYear := if 2 < d.month then d.month - 3 else d.month + 9
  let dayOfYear := (153 * monthOfYear + 2) / 5 + d.dayOfMonth - 1
  let dayOfSpan := yearOfSpan * 365 + yearOfSpan / 4 - yearOfSpan / 100 + dayOfYear
  ⟨span * 146097 + dayOfSpan - 719468⟩

/-- A number with at least the given number of digits. -/
def padded (width n : Nat) : List Char :=
  let digits := (toString n).toList
  List.replicate (width - digits.length) '0' ++ digits

/-- **Year text**: four digits, and a sign before a year that is negative or has more digits. -/
def writeYear (year : Int) : List Char :=
  if 0 ≤ year ∧ year ≤ 9999 then padded 4 year.toNat
  else (if year < 0 then '-' else '+') :: padded 4 year.natAbs

/-- **Name of a day**: year, month and day of the month, with hyphens between them. -/
def Day.nameChars (d : Day) : List Char :=
  let date := d.date
  writeYear date.year ++ '-' :: padded 2 date.month ++ '-' :: padded 2 date.dayOfMonth

def Day.name (d : Day) : String := String.ofList d.nameChars

/-- **A time to read**: month, day and year, and the time of day. A time without a date is shown as
its number. -/
def describeTime (time : Int) : String :=
  match Day.ofTime? time with
  | none => toString time
  | some day =>
    let date := day.date
    let second := (time % secondsPerDay).toNat
    String.ofList (padded 2 date.month ++ '/' :: padded 2 date.dayOfMonth ++ '/' ::
      writeYear date.year ++ ' ' :: padded 2 (second / 3600) ++ ':' ::
      padded 2 (second / 60 % 60) ++ ':' :: padded 2 (second % 60))

end SwapArchive
