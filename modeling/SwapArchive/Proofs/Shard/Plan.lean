import SwapArchive.Proofs.Shard.Names

/-!
# The planned days

Days follow one another without a gap, so that every second is in one of them. The planned days
lead from the last day before the present back to that of the initial time, one day after the other.
-/

namespace SwapArchive

namespace Day

variable {d e : Day} {time : Int}

def next (d : Day) : Day := ⟨d.number + 1⟩

/-- **The seconds of a day** lie between its start and its finish. -/
def Holds (d : Day) (time : Int) : Prop := d.start ≤ time ∧ time ≤ d.finish

theorem holds_iff : d.Holds time ↔ d = ofTime time := by
  rw [Day.eq_iff]
  simp only [Holds, start, finish, ofTime, secondsPerDay]
  omega

/-- **The day of a second** that has a date is the one that holds it. -/
theorem ofTime?_eq_some (h : d.IsDated) : ofTime? time = some d ↔ d.Holds time := by
  rw [holds_iff, ofTime?]
  constructor
  · intro hDay
    split at hDay
    · exact (Option.some.inj hDay).symm
    · cases hDay
  · rintro rfl
    obtain ⟨hFirst, hLast⟩ := h
    rw [if_pos]
    simp only [start, finish, ofTime, secondsPerDay] at hFirst hLast
    omega

/-- The seconds of a day are followed by those of the next one. -/
theorem finish_add_one (d : Day) : d.finish + 1 = d.next.start := by
  simp only [finish, start, next, secondsPerDay]
  omega

theorem next_previous (d : Day) : d.previous.next = d := by
  rw [Day.eq_iff]
  simp only [next, previous]
  omega

theorem pairwise_before (d : Day) (count : Nat) :
    (d.before count).Pairwise fun later earlier => earlier.number < later.number := by
  induction count generalizing d with
  | zero => exact .nil
  | succ count ih =>
    rw [before]
    exact .cons (fun e he => (mem_before.1 he).2) (ih d.previous)

/-- The days before a day, without a gap. -/
theorem isChain_before (d : Day) (count : Nat) :
    (d.before count).IsChain fun later earlier => later = earlier.next := by
  induction count generalizing d with
  | zero => exact .nil
  | succ count ih =>
    rw [before]
    cases count with
    | zero => exact .singleton _
    | succ count => exact .cons_cons d.previous.next_previous.symm (ih d.previous)

end Day

/-- **The planned days** are those from the day of the initial time to the last one before the
present, strictly descending and without a gap. Every second of this time is in one of them, and
no other second is in any. -/
theorem planDays_partition {initial : Int} {first : Day} (hFirst : Day.ofTime? initial = some first)
    (now : Int) :
    (planDays initial now).Pairwise (fun later earlier => earlier.number < later.number) ∧
    (planDays initial now).IsChain (fun later earlier => later = earlier.next) ∧
    (∀ d : Day, d ∈ planDays initial now ↔
      first.number ≤ d.number ∧ d.number < (Day.ofTime now).number) ∧
    (∀ time, first.start ≤ time → time < (Day.ofTime now).start →
      ∃! d, d ∈ planDays initial now ∧ d.Holds time) ∧
    (∀ time, ¬ (first.start ≤ time ∧ time < (Day.ofTime now).start) →
      ∀ d ∈ planDays initial now, ¬ d.Holds time) ∧
    (∀ d : Day, d.finish + 1 = d.next.start) ∧
    ∀ (d : Day) (time : Int), d.IsDated → (Day.ofTime? time = some d ↔ d.Holds time) := by
  have hMem (d : Day) : d ∈ planDays initial now ↔
      first.number ≤ d.number ∧ d.number < (Day.ofTime now).number := mem_planDays hFirst
  -- A second is in the time of the plan if its day is planned.
  have hSpan (time : Int) : Day.ofTime time ∈ planDays initial now ↔
      first.start ≤ time ∧ time < (Day.ofTime now).start := by
    rw [hMem]
    simp only [Day.ofTime, Day.start, secondsPerDay]
    omega
  refine ⟨?_, ?_, hMem, fun time hFrom hTo => ?_, fun time hOutside d hd hHolds => ?_,
    Day.finish_add_one, fun d time hDated => Day.ofTime?_eq_some hDated⟩
  · rw [planDays_eq hFirst]
    exact Day.pairwise_before _ _
  · rw [planDays_eq hFirst]
    exact Day.isChain_before _ _
  · refine ⟨Day.ofTime time, ⟨(hSpan time).2 ⟨hFrom, hTo⟩, Day.holds_iff.2 rfl⟩, ?_⟩
    rintro d ⟨-, hHolds⟩
    exact Day.holds_iff.1 hHolds
  · rw [Day.holds_iff.1 hHolds] at hd
    exact hOutside ((hSpan time).1 hd)

/-- An initial time on the last day of February of the year 2000, and a present time on the second
of March. -/
theorem planDays_partition_leap_year :
    let first : Day := Date.day ⟨2000, 2, 29⟩
    let last : Day := Date.day ⟨2000, 3, 1⟩
    let now := last.finish + 1
    Day.ofTime? (first.start + 5) = some first ∧
      (planDays (first.start + 5) now).Pairwise
        (fun later earlier => earlier.number < later.number) ∧
      (planDays (first.start + 5) now).IsChain (fun later earlier => later = earlier.next) ∧
      (∃! d, d ∈ planDays (first.start + 5) now ∧ d.Holds last.finish) ∧
      (∀ d ∈ planDays (first.start + 5) now, ¬ d.Holds now) ∧
      last.IsDated ∧ Day.ofTime? last.finish = some last ∧
      planDays (first.start + 5) now = [last, first] := by
  intro first last now
  have hFirst : Day.ofTime? (first.start + 5) = some first := by decide
  have hDated : last.IsDated := ⟨by decide, by decide⟩
  obtain ⟨hDown, hChain, -, hInside, hOutside, -, hDay⟩ := planDays_partition hFirst now
  exact ⟨hFirst, hDown, hChain, hInside _ (by decide) (by decide), hOutside _ (by decide), hDated,
    (hDay last _ hDated).2 ⟨by decide, by decide⟩, by decide +kernel⟩

end SwapArchive
