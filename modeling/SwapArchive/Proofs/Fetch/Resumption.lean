import Mathlib.Data.List.Nodup
import SwapArchive.Proofs.Fetch.Completeness

/-!
# Resumed runs

A history that is served in one order leaves a run no choice: where it ends, and what it then has
stored, follows from its cursor and its table alone. A run that fails stops on the way to that end,
and what it leaves is enough to find the way again, although the cursor is forgotten: the oldest
stored time is where the cursor was, or one second above it, on a second that has been stored.
-/

namespace SwapArchive

namespace Table

variable {t : Table} {entries : List Entry} {history : List Swap}

/-- A table of a history: each of its rows holds a swap of that. -/
def IsOf (t : Table) (history : List Swap) : Prop := ∀ r ∈ t.rows, ∃ x ∈ history, r.Holds x.entry

theorem isOf_empty : Table.empty.IsOf history := fun _ hr => nomatch hr

theorem IsOf.insertAll (h : t.IsOf history)
    (hEntries : ∀ e ∈ entries, ∃ x ∈ history, x.entry = e) :
    (t.insertAll entries).1.IsOf history := by
  obtain ⟨added, hRows, hHolds⟩ := holds_of_insertAll t entries
  intro r hr
  rw [hRows, List.mem_append] at hr
  rcases hr with hOld | hNew
  · exact h r hOld
  · obtain ⟨e, hMem, hRow⟩ := hHolds r hNew
    obtain ⟨x, hx, rfl⟩ := hEntries e hMem
    exact ⟨x, hx, hRow⟩

/-- A swap of the history whose id is stored is stored itself. -/
theorem IsOf.holds_of_contains (h : t.IsOf history) (hIds : (history.map (·.id)).Nodup) {x : Swap}
    (hx : x ∈ history) (hContains : t.contains x.id = true) : ∃ r ∈ t.rows, r.Holds x.entry := by
  obtain ⟨r, hr, hKey⟩ := contains_iff.1 hContains
  obtain ⟨y, hy, hRow⟩ := h r hr
  have hSame : y.id = x.id := hRow.key.symm.trans hKey
  obtain rfl := List.inj_on_of_nodup_map hIds hy hx hSame
  exact ⟨r, hr, hRow⟩

end Table

namespace Fetch

variable {σ : Type} {source : Source σ} {clip : Bool} {s s' u : State σ} {history : List Swap}
  {pageSize : Nat} {fallback bound : Int} {c : Cursor} {t : Table}

/-- Why and where a run ends, and what is then stored. -/
structure Ending where
  reason : StopReason
  cursor : Cursor
  table : Table

/-- **Descent**: the ending of a run that does not fail, on a history that is served in one
order. -/
def descend (history : List Swap) (pageSize : Nat) (clip : Bool) (c : Cursor) (t : Table) :
    Ending :=
  if c.asOf ≤ c.lowerBound then ⟨.boundReached, c, t⟩
  else
    match (pageOf history pageSize c.asOf).map Swap.entry with
    | [] => ⟨.exhausted, c, t⟩
    | first :: rest =>
      descend history pageSize clip
        (c.pass (oldestTime first rest) (first :: rest).length pageSize).1
        (t.insertAll (kept clip c.lowerBound (first :: rest))).1
termination_by (c.asOf - c.lowerBound).toNat
decreasing_by
  have hDown := Cursor.pass_asOf_lt c (oldestTime first rest) (first :: rest).length pageSize
  have hBound := Cursor.pass_lowerBound c (oldestTime first rest) (first :: rest).length pageSize
  omega

theorem mem_pageOf {x : Swap} {asOf : Int} (h : x ∈ pageOf history pageSize asOf) :
    x ∈ history ∧ x.timestamp ≤ asOf := by
  simpa using List.mem_of_mem_take h

theorem length_pageOf_le (history : List Swap) (pageSize : Nat) (asOf : Int) :
    (pageOf history pageSize asOf).length ≤ pageSize := by
  rw [pageOf, List.length_take]
  exact Nat.min_le_left ..

/-- The entries of an answer are those of a page of the history. -/
theorem entries_of_answer {page : List Swap} {entries : List Entry}
    (hServes : source.ServesInOrder history) (hValid : ∀ x ∈ history, x.validate = .ok ())
    (hReply : (s.ask source).reply = .ok page) (hEntries : entriesOf page = .ok entries) :
    (pageOf history source.pageSize s.cursor.asOf).map Swap.entry = entries := by
  obtain rfl := hServes _ _ _ hReply
  rw [entriesOf_of_valid fun x hx => hValid x (mem_pageOf hx).1] at hEntries
  exact Except.ok.inj hEntries

/-- A step of a run is a step of the descent. -/
theorem descend_step {notices : List Notice} (hServes : source.ServesInOrder history)
    (hValid : ∀ x ∈ history, x.validate = .ok ())
    (hStep : step source clip s = ⟨notices, s', none⟩) :
    descend history source.pageSize clip s'.cursor s'.medium.table
      = descend history source.pageSize clip s.cursor s.medium.table := by
  obtain ⟨page, first, rest, inserted, hAbove, hReply, hEntries, hWrite, rfl⟩ :=
    step_continues hStep
  have hPage := entries_of_answer hServes hValid hReply hEntries
  conv_rhs => rw [descend, if_neg (Int.not_le.2 hAbove), hPage]
  rw [State.written, (Medium.write_ok hWrite).2]
  rfl

/-- **What a run passes has one end.** -/
theorem Passes.descend_eq (h : Passes source clip s u) (hServes : source.ServesInOrder history)
    (hValid : ∀ x ∈ history, x.validate = .ok ()) :
    descend history source.pageSize clip u.cursor u.medium.table
      = descend history source.pageSize clip s.cursor s.medium.table :=
  h.preserves (P := fun u => descend history source.pageSize clip u.cursor u.medium.table
      = descend history source.pageSize clip s.cursor s.medium.table)
    (fun hSame hStep => (descend_step hServes hValid hStep).trans hSame) rfl

/-- A step that stops leaves cursor and table as they are. It stops without a failure only at the
end of the descent, and with one only above the bound. -/
theorem descend_stop {notices : List Notice} {reason : StopReason}
    (hServes : source.ServesInOrder history) (hValid : ∀ x ∈ history, x.validate = .ok ())
    (hStep : step source clip s = ⟨notices, s', some reason⟩) :
    s'.cursor = s.cursor ∧ s'.medium.table = s.medium.table ∧
      (reason.isComplete = true → descend history source.pageSize clip s.cursor s.medium.table
        = ⟨reason, s.cursor, s.medium.table⟩) ∧
      (reason.isError = true → s.cursor.lowerBound < s.cursor.asOf) := by
  have hStepped := stepped source clip s
  rw [hStep] at hStepped
  cases hStepped with
  | done hDone => exact ⟨rfl, rfl, fun _ => by rw [descend, if_pos hDone], nofun⟩
  | unanswered hAbove => exact ⟨rfl, rfl, nofun, fun _ => hAbove⟩
  | invalid hAbove => exact ⟨rfl, rfl, nofun, fun _ => hAbove⟩
  | exhausted hAbove hReply hEntries =>
    have hPage := entries_of_answer hServes hValid hReply hEntries
    refine ⟨rfl, rfl, fun _ => ?_, nofun⟩
    rw [descend, if_neg (Int.not_le.2 hAbove), hPage]
  | unwritten hAbove hReply hEntries hWrite =>
    refine ⟨rfl, ?_, nofun, fun _ => hAbove⟩
    rw [State.unwritten, Medium.write_error hWrite]

/-- **Resumable**: the rows hold swaps of the history, and tell where the cursor is. It is at the
oldest stored time, or one second below it, if nothing but that second is on its page and all of
the page is stored. -/
structure Resumable (history : List Swap) (pageSize : Nat) (fallback : Int) (c : Cursor)
    (t : Table) : Prop where
  isOf : t.IsOf history
  place : (t.rows = [] ∧ c.asOf = fallback) ∨ ∃ oldest, t.earliest? = some oldest ∧
    (c.asOf = oldest ∨ (c.asOf = oldest - 1 ∧
      ∃ first rest, (pageOf history pageSize oldest).map Swap.entry = first :: rest ∧
        ∀ e ∈ first :: rest, e.time = oldest ∧ t.contains e.key = true))

/-- The rows are not older than the cursor. -/
theorem Resumable.asOf_le (h : Resumable history pageSize fallback c t) {r : Row}
    (hr : r ∈ t.rows) : c.asOf ≤ r.time := by
  rcases h.place with ⟨hNone, -⟩ | ⟨oldest, hOldest, hCursor⟩
  · rw [hNone] at hr
    cases hr
  · have hLeast := (Table.earliest?_eq_some.1 hOldest).2 r hr
    omega

/-- A page after which the cursor is still above the bound is kept whole. -/
theorem kept_of_lowerBound_lt {first : Entry} {rest : List Entry}
    (hAbove : c.lowerBound
      < (c.pass (oldestTime first rest) (first :: rest).length pageSize).1.asOf) :
    kept clip c.lowerBound (first :: rest) = first :: rest := by
  rw [Cursor.pass_asOf] at hAbove
  cases clip with
  | false => rfl
  | true =>
    refine List.filter_eq_self.2 fun e he => decide_eq_true ?_
    have hOldest := oldestTime_le he
    split at hAbove <;> omega

/-- The oldest time of a page is the oldest stored one afterwards. -/
theorem Resumable.earliest?_insertAll (hIds : (history.map (·.id)).Nodup)
    (h : Resumable history pageSize fallback c t) {first : Entry} {rest : List Entry}
    (hEntries : ∀ e ∈ first :: rest, ∃ x ∈ history, x.entry = e)
    (hUpTo : ∀ e ∈ first :: rest, e.time ≤ c.asOf) :
    (t.insertAll (first :: rest)).1.earliest? = some (oldestTime first rest) := by
  obtain ⟨e, he, hTime⟩ := oldestTime_mem first rest
  refine Table.earliest?_eq_some.2 ⟨?_, fun r hr => ?_⟩
  · -- The oldest entry of the page is stored, now or from before.
    obtain ⟨x, hx, hEntry⟩ := hEntries e he
    have hStored : (t.insertAll (first :: rest)).1.contains x.id = true :=
      Table.contains_insertAll.2 (.inr ⟨e, he, by rw [← hEntry]; rfl⟩)
    obtain ⟨r, hr, hRow⟩ := (h.isOf.insertAll hEntries).holds_of_contains hIds hx hStored
    refine ⟨r, hr, ?_⟩
    rw [hRow.time, hEntry, hTime]
  · -- Rows from before are not older than the cursor, which no entry of the page is later than.
    obtain ⟨added, hRows, hHolds⟩ := Table.holds_of_insertAll t (first :: rest)
    rw [hRows, List.mem_append] at hr
    rcases hr with hOld | hNew
    · have hBefore := h.asOf_le hOld
      have hPage := hUpTo e he
      omega
    · obtain ⟨e', he', hRow⟩ := hHolds r hNew
      rw [hRow.time]
      exact oldestTime_le he'

/-- A page above the bound leaves the run resumable. -/
theorem Resumable.pass (hIds : (history.map (·.id)).Nodup)
    (h : Resumable history pageSize fallback c t) {first : Entry} {rest : List Entry}
    (hPage : (pageOf history pageSize c.asOf).map Swap.entry = first :: rest)
    (hAbove : c.lowerBound
      < (c.pass (oldestTime first rest) (first :: rest).length pageSize).1.asOf) :
    Resumable history pageSize fallback
      (c.pass (oldestTime first rest) (first :: rest).length pageSize).1
      (t.insertAll (kept clip c.lowerBound (first :: rest))).1 := by
  have hOnPage : ∀ e ∈ first :: rest, ∃ x ∈ pageOf history pageSize c.asOf, x.entry = e := by
    intro e he
    rwa [← hPage, List.mem_map] at he
  have hEntries : ∀ e ∈ first :: rest, ∃ x ∈ history, x.entry = e := by
    intro e he
    obtain ⟨x, hx, hEntry⟩ := hOnPage e he
    exact ⟨x, (mem_pageOf hx).1, hEntry⟩
  have hUpTo : ∀ e ∈ first :: rest, e.time ≤ c.asOf := by
    intro e he
    obtain ⟨x, hx, rfl⟩ := hOnPage e he
    exact (mem_pageOf hx).2
  -- The page ends above the bound, so clipping leaves nothing of it out.
  rw [kept_of_lowerBound_lt hAbove]
  refine ⟨h.isOf.insertAll hEntries, .inr ⟨_, h.earliest?_insertAll hIds hEntries hUpTo, ?_⟩⟩
  rw [Cursor.pass_asOf]
  split
  · exact .inl rfl
  · -- The cursor steps over its second, and the page holds nothing but that.
    next hStays =>
    obtain ⟨e, he, hTime⟩ := oldestTime_mem first rest
    have hOldest := hUpTo e he
    have hSecond : oldestTime first rest = c.asOf := by omega
    refine .inr ⟨by omega, first, rest, by rw [hSecond, hPage], fun e' he' => ⟨?_, ?_⟩⟩
    · have hLate := hUpTo e' he'
      have hEarly := oldestTime_le he'
      omega
    · exact Table.contains_insertAll.2 (.inr ⟨e', he', rfl⟩)

/-- **The way from the oldest stored time has the same end** as the way from the cursor. -/
theorem Resumable.descend_startTime (h : Resumable history pageSize fallback c t)
    (hAbove : c.lowerBound < c.asOf) :
    descend history pageSize clip ⟨(startTime t fallback).1, c.lowerBound⟩ t
      = descend history pageSize clip c t := by
  obtain ⟨asOf, lowerBound⟩ := c
  rcases h.place with ⟨hNone, rfl⟩ | ⟨oldest, hOldest, rfl | ⟨hBelow, first, rest, hPage, hAll⟩⟩
  · rw [startTime, Table.earliest?_eq_none.2 hNone]
  · rw [startTime, hOldest]
  -- One step from the oldest time stores nothing and goes down to the cursor.
  · have hTime : oldestTime first rest = oldest := by
      obtain ⟨e, he, hTime⟩ := oldestTime_mem first rest
      rw [← hTime, (hAll e he).1]
    have hStays : (t.insertAll (kept clip lowerBound (first :: rest))).1 = t :=
      congrArg Prod.fst (Table.insertAll_of_contains fun e he => (hAll e (mem_kept.1 he).1).2)
    have hPass : (Cursor.pass ⟨oldest, lowerBound⟩ (oldestTime first rest)
        (first :: rest).length pageSize).1 = ⟨asOf, lowerBound⟩ := by
      rw [Cursor.pass, if_neg (by simp [hTime])]
      exact congrArg (Cursor.mk · lowerBound) hBelow.symm
    dsimp only at hAbove hBelow
    rw [startTime, hOldest]
    conv_lhs => rw [descend, if_neg (by dsimp only; omega), hPage]
    simp only [hPass, hStays]

/-- A run that starts where its table tells is resumable. -/
theorem Resumable.ofStartTime (h : t.IsOf history) :
    Resumable history pageSize fallback ⟨(startTime t fallback).1, bound⟩ t where
  isOf := h
  place := by
    cases hOldest : t.earliest? with
    | none => exact .inl ⟨Table.earliest?_eq_none.1 hOldest, by rw [startTime, hOldest]⟩
    | some oldest => exact .inr ⟨oldest, rfl, .inl (by rw [startTime, hOldest])⟩

/-- As long as it is above its bound, a run stays resumable. -/
theorem Resumable.step {notices : List Notice} (hServes : source.ServesInOrder history)
    (hValid : ∀ x ∈ history, x.validate = .ok ()) (hIds : (history.map (·.id)).Nodup)
    (h : s.cursor.lowerBound < s.cursor.asOf →
      Resumable history source.pageSize fallback s.cursor s.medium.table)
    (hStep : Fetch.step source clip s = ⟨notices, s', none⟩)
    (hAbove' : s'.cursor.lowerBound < s'.cursor.asOf) :
    Resumable history source.pageSize fallback s'.cursor s'.medium.table := by
  obtain ⟨page, first, rest, inserted, hAbove, hReply, hEntries, hWrite, rfl⟩ :=
    step_continues hStep
  have hPage := entries_of_answer hServes hValid hReply hEntries
  have hBound := Cursor.pass_lowerBound s.cursor (oldestTime first rest) (first :: rest).length
    source.pageSize
  rw [State.table_written source hWrite]
  exact (h hAbove).pass hIds hPage (Int.lt_of_le_of_lt (Int.le_of_eq hBound.symm) hAbove')

/-- A run that starts at the oldest stored time, or at the given one if nothing is stored. -/
def resume (source : Source σ) (clip : Bool) (fallback bound : Int) (medium : Medium) (state : σ) :
    Finished σ :=
  run source clip ⟨(startTime medium.table fallback).1, bound⟩ medium state

/-- **Resumed runs**: each of them starts where the table tells, all but the last one fail, and the
last one does not. Between two runs only the table stays; source and medium may change. -/
inductive Resumed (source : Source σ) (clip : Bool) (fallback bound : Int) :
    Medium → σ → Finished σ → Prop
  | last {medium : Medium} {state : σ}
      (hEnds : (resume source clip fallback bound medium state).report.reason.isComplete = true) :
    Resumed source clip fallback bound medium state (resume source clip fallback bound medium state)
  | failed {medium medium' : Medium} {state state' : σ} {finished : Finished σ}
      (hFails : (resume source clip fallback bound medium state).report.reason.isError = true)
      (hTable : medium'.table = (resume source clip fallback bound medium state).medium.table)
      (hRest : Resumed source clip fallback bound medium' state' finished) :
    Resumed source clip fallback bound medium state finished

def Finished.ending (f : Finished σ) : Ending := ⟨f.report.reason, f.report.cursor, f.medium.table⟩

/-- A run that does not fail ends where the descent does. -/
theorem ending_run {start : Cursor} {medium : Medium} {state : σ}
    (hServes : source.ServesInOrder history) (hValid : ∀ x ∈ history, x.validate = .ok ())
    (hEnds : (run source clip start medium state).report.reason.isComplete = true) :
    (run source clip start medium state).ending
      = descend history source.pageSize clip start medium.table := by
  obtain ⟨last, notices, hPasses, hLast⟩ := walk_ends source clip ⟨start, {}, medium, state⟩
  obtain ⟨hCursor, hTable, hEnding, -⟩ := descend_stop hServes hValid hLast
  rw [← hPasses.descend_eq hServes hValid, hEnding hEnds, ← hCursor, ← hTable]
  rfl

/-- A run that fails leaves a table from which the same end is reached. -/
theorem descend_after_failure {medium : Medium} {state : σ}
    (hServes : source.ServesInOrder history) (hValid : ∀ x ∈ history, x.validate = .ok ())
    (hIds : (history.map (·.id)).Nodup) (hIsOf : medium.table.IsOf history)
    (hFails : (resume source clip fallback bound medium state).report.reason.isError = true) :
    let left := (resume source clip fallback bound medium state).medium.table
    left.IsOf history ∧
      descend history source.pageSize clip ⟨(startTime left fallback).1, bound⟩ left
        = descend history source.pageSize clip ⟨(startTime medium.table fallback).1, bound⟩
          medium.table := by
  intro left
  let start : State σ := ⟨⟨(startTime medium.table fallback).1, bound⟩, {}, medium, state⟩
  obtain ⟨last, notices, hPasses, hLast⟩ := walk_ends source clip start
  obtain ⟨-, hTable, -, hError⟩ := descend_stop hServes hValid hLast
  have hAbove : last.cursor.lowerBound < last.cursor.asOf := hError hFails
  -- The invariant holds above the bound only: a page that goes below it may be clipped, and the
  -- oldest stored time is then no longer where the cursor is. A run that fails is still above.
  obtain ⟨hBound, hResumable⟩ := hPasses.preserves
    (P := fun u => u.cursor.lowerBound = bound ∧ (u.cursor.lowerBound < u.cursor.asOf →
      Resumable history source.pageSize fallback u.cursor u.medium.table))
    (fun h hStep =>
      ⟨(step_descends hStep).2.1.trans h.1, Resumable.step hServes hValid hIds h.2 hStep⟩)
    ⟨rfl, fun _ => .ofStartTime hIsOf⟩
  have hLeft : left = last.medium.table := hTable
  refine ⟨hLeft ▸ (hResumable hAbove).isOf, ?_⟩
  calc descend history source.pageSize clip ⟨(startTime left fallback).1, bound⟩ left
      = descend history source.pageSize clip
          ⟨(startTime last.medium.table fallback).1, last.cursor.lowerBound⟩ last.medium.table := by
        rw [hLeft, hBound]
    _ = descend history source.pageSize clip last.cursor last.medium.table :=
        (hResumable hAbove).descend_startTime hAbove
    _ = descend history source.pageSize clip start.cursor medium.table :=
        hPasses.descend_eq hServes hValid

/-- Resumed runs end where the descent from their first table does. -/
theorem Resumed.ending {medium : Medium} {state : σ} {finished : Finished σ}
    (h : Resumed source clip fallback bound medium state finished)
    (hServes : source.ServesInOrder history) (hValid : ∀ x ∈ history, x.validate = .ok ())
    (hIds : (history.map (·.id)).Nodup) (hIsOf : medium.table.IsOf history) :
    finished.ending = descend history source.pageSize clip
      ⟨(startTime medium.table fallback).1, bound⟩ medium.table := by
  induction h with
  | last hEnds => exact ending_run hServes hValid hEnds
  | failed hFails hTable hRest ih =>
    obtain ⟨hLeft, hSame⟩ := descend_after_failure hServes hValid hIds hIsOf hFails
    rw [← hSame, ← hTable]
    exact ih (hTable ▸ hLeft)

/-- **Resumption.** Runs that fail at any question and at any write, and that are each taken up
where the table tells, until one does not fail, leave the same rows in the same order as one run
without failures, and the last of them ends for the same reason at the same cursor. Any number of
swaps may fall into one second. -/
theorem resumed_eq_whole {medium : Medium} {state : σ} {finished : Finished σ}
    (hServes : source.ServesInOrder history) (hValid : ∀ x ∈ history, x.validate = .ok ())
    (hIds : (history.map (·.id)).Nodup)
    (hEmpty : medium.table = .empty)
    (hResumed : Resumed source clip fallback bound medium state finished) :
    let whole := run (Source.ofHistory history source.pageSize) clip ⟨fallback, bound⟩
      (.ofTable .empty) ()
    finished.medium.table = whole.medium.table ∧
      finished.report.reason = whole.report.reason ∧
      finished.report.cursor = whole.report.cursor := by
  intro whole
  have hResumedEnding := hResumed.ending hServes hValid hIds (hEmpty ▸ Table.isOf_empty)
  have hComplete : whole.report.reason.isComplete = true := by
    have hUnfailing : Unfailing (Source.ofHistory history source.pageSize) clip
        ⟨⟨fallback, bound⟩, {}, .ofTable .empty, ()⟩ :=
      unfailing_of_ready (fun _ _ => ⟨_, rfl⟩) (fun _ => rfl) rfl
    refine hUnfailing.isComplete fun asOf state page hReply x hx => ?_
    obtain rfl := Source.servesInOrder_ofHistory _ _ asOf state page hReply
    exact hValid x (mem_pageOf hx).1
  have hWholeEnding : whole.ending
      = descend history source.pageSize clip ⟨fallback, bound⟩ .empty :=
    ending_run (Source.servesInOrder_ofHistory _ _) hValid hComplete
  -- Both are the end of the descent from the empty table.
  have hSame : finished.ending = whole.ending := by
    rw [hResumedEnding, hWholeEnding, hEmpty]
    rfl
  exact ⟨congrArg Ending.table hSame, congrArg Ending.reason hSame, congrArg Ending.cursor hSame⟩

/-- A run that fails right after it has stepped over a second, and is taken up above that second. -/
theorem resumed_eq_whole_stepped_over :
    let history : List Swap := [.sample "a" 7, .sample "b" 6, .sample "c" 6, .sample "d" 3]
    let source := (Source.ofHistory history 2).failing fun number =>
      if number = 2 then some (.transport "connection reset") else none
    let failed := resume source true 7 1 (.ofTable .empty) (0, ())
    let finished := resume source true 7 1 failed.medium failed.source
    let whole := run (Source.ofHistory history 2) true ⟨7, 1⟩ (.ofTable .empty) ()
    failed.report.reason.isError = true ∧ failed.report.cursor.asOf = 5 ∧
      finished.medium.table = whole.medium.table ∧
      finished.report.reason = whole.report.reason ∧
      finished.report.cursor = whole.report.cursor := by
  intro history source failed finished whole
  have hValid : ∀ x ∈ history, x.validate = .ok () := by
    simp only [history, List.forall_mem_cons]
    refine ⟨?_, ?_, ?_, ?_, by simp⟩ <;> exact Swap.validate_sample rfl (by decide)
  have hFails : failed.report.reason.isError = true := by decide +kernel
  have hEnds : finished.report.reason.isComplete = true := by decide +kernel
  exact ⟨hFails, by decide +kernel,
    resumed_eq_whole ((Source.servesInOrder_ofHistory history 2).failing _) hValid (by decide) rfl
      (.failed hFails rfl (.last hEnds))⟩

end Fetch
end SwapArchive
