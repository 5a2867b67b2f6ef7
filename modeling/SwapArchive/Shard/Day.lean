import SwapArchive.Calendar

/-!
# Days of the archive

The archive keeps one shard for each complete day. A day is fetched into a temporary file and gets
its final name once it is complete.
-/

namespace SwapArchive

/-- A name below a directory. A name that starts at the top stands alone, and so does every name
below the empty path. -/
def joinPath (directory name : String) : String :=
  if name.startsWith "/" then name
  else if directory.isEmpty || directory.endsWith "/" then directory ++ name
  else directory ++ "/" ++ name

/-- The ending of the name of a shard. -/
def shardEnding : String := ".db"

/-- What a temporary shard has before the ending. -/
def temporaryMark : String := "_temp"

namespace Day

/-- The file of a complete day. -/
def finalName (d : Day) : String := d.name ++ shardEnding

/-- The file of a day that is being fetched. -/
def temporaryName (d : Day) : String := d.name ++ temporaryMark ++ shardEnding

/-- The path of the file of a complete day. -/
def finalPath (d : Day) (directory : String) : String := joinPath directory d.finalName

/-- The path of the file of a day that is being fetched. -/
def temporaryPath (d : Day) (directory : String) : String := joinPath directory d.temporaryName

/-- The day before, if there is a date for it. -/
def previous? (d : Day) : Option Day :=
  if firstTime ≤ d.previous.start then some d.previous else none

theorem number_previous? {d e : Day} (h : d.previous? = some e) : e.number = d.number - 1 := by
  unfold previous? at h
  split at h
  · rw [← Option.some.inj h]
    rfl
  · cases h

/-- The days before a day, newest first, back to a first one. -/
def backTo (d first : Day) : List Day :=
  match _hPrevious : d.previous? with
  | none => []
  | some earlier => if earlier.number < first.number then [] else earlier :: backTo earlier first
termination_by (d.number - first.number).toNat
decreasing_by
  have hNumber := number_previous? _hPrevious
  omega

end Day

/-- **Planned days**: from the day before the present one back to the day of the initial time. An
initial time without a date plans nothing. -/
def planDays (initial now : Int) : List Day :=
  match Day.ofTime? initial with
  | none => []
  | some first => (Day.ofTime now).backTo first

/-- A span of time. -/
structure Wait where
  seconds : Nat
  nanos : Nat
  deriving DecidableEq, Repr

def nanosPerSecond : Nat := 1000000000

/-- The seconds that a leap second adds to those of a day. Within one, a time is the second before
and more nanoseconds than a second has. -/
def leapSeconds (nanos : Nat) : Nat := if nanosPerSecond ≤ nanos then 1 else 0

/-- **Delay until an hour**: the time from the present, `nanos` after the second `now`, to the next
full hour of the given number; none if it is exactly that hour. Hours after the last count as the
last. A leap second is counted if the hour is still to come on the same day. -/
def syncDelay (now : Int) (nanos hour : Nat) : Wait :=
  let present := (now % secondsPerDay).toNat
  let target := min hour 23 * 3600
  let ahead :=
    if present < target then target + leapSeconds nanos - present
    else if present = target ∧ nanos = 0 then 0
    else target + secondsPerDay.toNat - present
  let wait := ahead * nanosPerSecond - nanos
  ⟨wait / nanosPerSecond, wait % nanosPerSecond⟩

end SwapArchive
