import Mathlib.Order.Bounds.Basic
import SwapArchive.Proofs.Shard.Plan

/-!
# The hour of the daily sync

An hour comes back after exactly a day, so that a full hour less than a day away is the first one to
come. The delay of the sync leads to one: to that of the present day up to its first nanosecond, and
then to that of the next day.
-/

namespace SwapArchive

def nanosPerDay : Nat := secondsPerDay.toNat * nanosPerSecond

/-- **Instant**: the nanoseconds from the start of 1970 to a number of them after a second. -/
def instant (time : Int) (nanos : Nat) : Int := time * nanosPerSecond + nanos

def Wait.length (w : Wait) : Nat := w.seconds * nanosPerSecond + w.nanos

/-- **Full hour**: the instant at which an hour of a day begins. -/
def Day.fullHour (d : Day) (hour : Nat) : Int := instant (d.start + hour * 3600) 0

/-- An instant at which the hour begins on some day. -/
def IsFullHour (hour : Nat) (t : Int) : Prop := ∃ d : Day, t = d.fullHour hour

/-- The day on which an hour is next. It is the present one as long as the hour has not begun, and
still at the instant at which it begins. -/
def Day.ofNext (hour : Nat) (now : Int) (nanos : Nat) : Day :=
  if (ofTime now).fullHour hour < instant now nanos then (ofTime now).next else ofTime now

variable {d e : Day} {now : Int} {nanos hour wait : Nat}

theorem Wait.length_eq_zero {w : Wait} : w.length = 0 ↔ w = ⟨0, 0⟩ := by
  obtain ⟨seconds, nanos⟩ := w
  rw [Wait.mk.injEq]
  simp only [length, nanosPerSecond]
  omega

namespace Day

theorem fullHour_le_fullHour : d.fullHour hour ≤ e.fullHour hour ↔ d.number ≤ e.number := by
  simp only [fullHour, instant, start, secondsPerDay, nanosPerSecond]
  omega

theorem fullHour_next (d : Day) (hour : Nat) :
    d.next.fullHour hour = d.fullHour hour + nanosPerDay := by
  simp only [fullHour, instant, next, start, nanosPerDay, secondsPerDay, nanosPerSecond]
  omega

/-- No hour of the present day is a day away. -/
theorem fullHour_ofTime_lt (now : Int) (nanos : Nat) (hHour : hour < 24) :
    (ofTime now).fullHour hour < instant now nanos + nanosPerDay := by
  simp only [fullHour, instant, start, ofTime, nanosPerDay, secondsPerDay, nanosPerSecond]
  omega

theorem fullHour_ofNext_lt (now : Int) (nanos : Nat) (hHour : hour < 24) :
    (ofNext hour now nanos).fullHour hour < instant now nanos + nanosPerDay := by
  by_cases hPast : (ofTime now).fullHour hour < instant now nanos
  · rw [ofNext, if_pos hPast, fullHour_next]
    omega
  · rw [ofNext, if_neg hPast]
    exact fullHour_ofTime_lt now nanos hHour

/-- The next hour has a date if the present and the day after it have one. -/
theorem isDated_ofNext (hFirst : firstTime ≤ now) (hNext : (ofTime now).next.IsDated) :
    (ofNext hour now nanos).IsDated := by
  by_cases hPast : (ofTime now).fullHour hour < instant now nanos
  · rwa [ofNext, if_pos hPast]
  · rw [ofNext, if_neg hPast]
    simp only [IsDated, finish, start, next, ofTime, secondsPerDay, firstTime, lastTime]
      at hFirst hNext ⊢
    omega

end Day

/-- **The first full hour.** A wait of less than a day that leads to a full hour is the least one
that does. -/
theorem isLeast_of_fullHour {present : Int} (hReached : present + wait = d.fullHour hour)
    (hShort : wait < nanosPerDay) :
    IsLeast {wait : Nat | IsFullHour hour (present + wait)} wait := by
  refine ⟨⟨d, hReached⟩, ?_⟩
  rintro other ⟨e, hOther⟩
  -- The hour of a day before would be a day or more before, and so in the past.
  have hLater : d.number ≤ e.number := by
    by_contra hBefore
    have hNext : e.next.fullHour hour ≤ d.fullHour hour :=
      Day.fullHour_le_fullHour.2 (Int.not_le.1 hBefore)
    rw [Day.fullHour_next] at hNext
    omega
  have hHours : d.fullHour hour ≤ e.fullHour hour := Day.fullHour_le_fullHour.2 hLater
  omega

theorem nanos_syncDelay_lt (now : Int) (nanos hour : Nat) :
    (syncDelay now nanos hour).nanos < nanosPerSecond :=
  Nat.mod_lt _ (by decide)

/-- **Where the delay leads**: to the hour of the day on which it is next. -/
theorem instant_add_syncDelay (now : Int) (hNanos : nanos < nanosPerSecond) (hour : Nat) :
    instant now nanos + (syncDelay now nanos hour).length
      = (Day.ofNext (min hour 23) now nanos).fullHour (min hour 23) := by
  have hLeap : leapSeconds nanos = 0 := if_neg (Nat.not_le.2 hNanos)
  simp only [syncDelay, Wait.length, Nat.div_add_mod', hLeap, Nat.add_zero]
  have hSecond : ((now % secondsPerDay).toNat : Int) = now - (Day.ofTime now).start := by
    simp only [Day.start, Day.ofTime, secondsPerDay]
    omega
  have hRange : (now % secondsPerDay).toNat < secondsPerDay.toNat := by
    simp only [secondsPerDay]
    omega
  -- Nothing else about the second of the day is needed below.
  generalize (now % secondsPerDay).toNat = second at *
  generalize min hour 23 = hour
  by_cases hPast : (Day.ofTime now).fullHour hour < instant now nanos
  · rw [Day.ofNext, if_pos hPast, Day.fullHour_next]
    simp only [Day.fullHour, instant, nanosPerDay, nanosPerSecond] at *
    have hBegun : ¬ second < hour * 3600 := by omega
    have hLate : ¬ (second = hour * 3600 ∧ nanos = 0) := by omega
    rw [if_neg hBegun, if_neg hLate]
    omega
  · rw [Day.ofNext, if_neg hPast]
    simp only [Day.fullHour, instant, nanosPerSecond] at *
    by_cases hBefore : second < hour * 3600
    · rw [if_pos hBefore]
      omega
    · have hExact : second = hour * 3600 ∧ nanos = 0 := by omega
      rw [if_neg hBefore, if_pos hExact]
      omega

/-- **The delay of the daily sync** is shorter than a day, and the least wait after which the hour
begins, so none exactly when it begins at present. An hour after the last one of a day stands for
that one. The full hour has a date if the present has one and is not on the last day with dates. -/
theorem syncDelay_isLeast (now : Int) (hNanos : nanos < nanosPerSecond) (hour : Nat) :
    let delay := syncDelay now nanos hour
    let present := instant now nanos
    delay.nanos < nanosPerSecond ∧ delay.length < nanosPerDay ∧
      IsLeast {wait : Nat | IsFullHour (min hour 23) (present + wait)} delay.length ∧
      (delay = ⟨0, 0⟩ ↔ IsFullHour (min hour 23) present) ∧
      (firstTime ≤ now → (Day.ofTime now).next.IsDated →
        ∃ d : Day, d.IsDated ∧ present + delay.length = d.fullHour (min hour 23)) := by
  intro delay present
  have hReached : present + delay.length = (Day.ofNext (min hour 23) now nanos).fullHour _ :=
    instant_add_syncDelay now hNanos hour
  have hShort : delay.length < nanosPerDay := by
    have hHour : min hour 23 < 24 := by omega
    have hNext := Day.fullHour_ofNext_lt now nanos hHour
    omega
  -- Full hours lie a day apart, so one that is less than a day away is the next.
  have hLeast := isLeast_of_fullHour hReached hShort
  refine ⟨nanos_syncDelay_lt now nanos hour, hShort, hLeast, ?_, ?_⟩
  · rw [← Wait.length_eq_zero]
    constructor
    · intro hNone
      have hHour : IsFullHour (min hour 23) (present + delay.length) := hLeast.1
      rwa [hNone, Int.natCast_zero, Int.add_zero] at hHour
    · intro hHour
      refine Nat.le_zero.1 (hLeast.2 ?_)
      rwa [Set.mem_ofPred_eq, Int.natCast_zero, Int.add_zero]
  · intro hFirst hNext
    exact ⟨_, Day.isDated_ofNext hFirst hNext, hReached⟩

/-- A nanosecond after the last hour of a year has begun, the last hour of the next day is the first
one to come. -/
theorem syncDelay_isLeast_year_end :
    let now := (Date.day ⟨2023, 12, 31⟩).start + 23 * 3600
    let present := instant now 1
    1 < nanosPerSecond ∧ syncDelay now 1 40 = ⟨86399, 999999999⟩ ∧
      IsLeast {wait : Nat | IsFullHour 23 (present + wait)} 86399999999999 ∧
      ¬ IsFullHour 23 present ∧
      (∃ d : Day, d.IsDated ∧ present + 86399999999999 = d.fullHour 23) ∧
      present + 86399999999999 = (Date.day ⟨2024, 1, 1⟩).fullHour 23 := by
  intro now present
  have hNanos : 1 < nanosPerSecond := by decide
  have hDelay : syncDelay now 1 40 = ⟨86399, 999999999⟩ := by decide
  obtain ⟨-, -, hLeast, hNone, hDated⟩ := syncDelay_isLeast now hNanos 40
  rw [hDelay] at hLeast hNone hDated
  refine ⟨hNanos, hDelay, hLeast, fun hHour => absurd (hNone.2 hHour) (by decide), ?_, by decide⟩
  exact hDated (by decide) ⟨by decide, by decide⟩

end SwapArchive
