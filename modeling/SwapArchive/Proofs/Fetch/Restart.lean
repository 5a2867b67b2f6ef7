import SwapArchive.Proofs.Fetch.Accounts
import SwapArchive.Proofs.Fetch.Span

/-!
# Restarts on a table that is not empty

A run that is taken up at the oldest stored time finds its way as long as that time is where the run
was. A table may hold rows that are older than anything the run has come to; it is then taken up at
these, and what lies between them and the place where it stopped is fetched by neither run.
-/

namespace SwapArchive.Fetch

variable {σ : Type} {source : Source σ} {clip : Bool} {s s' : State σ} {history : List Swap}
  {start : Cursor} {rows : List Row} {notices : List Notice} {reason : StopReason}
  {medium again : Medium} {state state' : σ} {fallback : Int}

/-- **A run that stops has stored all that is above its cursor**, whatever stops it. -/
theorem covered_walk (hServes : source.Serves history)
    (hSeconds : ∀ second, (history.filter (·.timestamp = second)).length ≤ source.pageSize) :
    Covered history clip start medium.table.rows
      (walk source clip ⟨start, {}, medium, state⟩).state := by
  refine walk_preserves (fun h hStep => h.step hServes (fun second _ _ => hSeconds second) hStep)
    (fun h hStep => ?_) .initial
  obtain ⟨hCursor, hTable, -⟩ := step_stop hStep
  obtain ⟨hBound, hUpTo, hStored, hAdded⟩ := h
  exact ⟨by rw [hCursor, hBound], by rw [hCursor]; exact hUpTo, by rwa [hCursor, hTable],
    by rwa [hTable]⟩

section Kept

variable {t : Table} (h : Covered history clip start t.rows s)

include h

theorem Covered.contains_of_old {key : String} (hOld : t.contains key = true) :
    s.medium.table.contains key = true := by
  obtain ⟨added, hRows, -⟩ := h.added
  obtain ⟨r, hr, hKey⟩ := Table.contains_iff.1 hOld
  exact Table.contains_iff.2 ⟨r, hRows ▸ List.mem_append_left added hr, hKey⟩

/-- A run adds nothing that is later than its start. -/
theorem Covered.old_of_contains (hIds : (history.map (·.id)).Nodup) {x : Swap} (hx : x ∈ history)
    (hLate : start.asOf < x.timestamp) (hContains : s.medium.table.contains x.id = true) :
    t.contains x.id = true := by
  obtain ⟨added, hRows, hAdded⟩ := h.added
  obtain ⟨r, hr, hKey⟩ := Table.contains_iff.1 hContains
  rw [hRows, List.mem_append] at hr
  rcases hr with hOld | hNew
  · exact Table.contains_iff.2 ⟨r, hOld, hKey⟩
  · obtain ⟨y, hy, hHolds, hEarly, -⟩ := hAdded r hNew
    have hSame : y.id = x.id := hHolds.key.symm.trans hKey
    obtain rfl := List.inj_on_of_nodup_map hIds hy hx hSame
    exact absurd hEarly (Int.not_le.2 hLate)

end Kept

/-- **A run that is complete has stored its span.** -/
theorem stored_of_complete (hServes : source.Serves history)
    (hSeconds : ∀ second, (history.filter (·.timestamp = second)).length ≤ source.pageSize)
    (hEnds : (run source clip start medium state).report.reason.isComplete = true) :
    ∀ x ∈ spanOf history start.lowerBound start.asOf,
      (run source clip start medium state).medium.table.contains x.id = true := by
  intro x hx
  obtain ⟨hHistory, hBound, hUpTo⟩ := mem_spanOf.1 hx
  have hCovered : Covered history clip start medium.table.rows
      (walk source clip ⟨start, {}, medium, state⟩).state := covered_walk hServes hSeconds
  -- The second of this swap has at least one, so that a page has room for something.
  have hOwn : x ∈ history.filter (·.timestamp = x.timestamp) := by simp [hHistory]
  have hSize := Nat.le_trans (List.length_pos_of_mem hOwn) (hSeconds x.timestamp)
  refine hCovered.stored x hHistory hBound ?_ hUpTo
  exact lt_of_walk_complete hSize hServes hEnds hHistory (by rwa [hCovered.lowerBound])

/-- What a run without clipping has stored: no row of it is older than the cursor, and there is one
as soon as a page has been written. -/
structure Reaching (rows : List Row) (s : State σ) : Prop where
  times : ∀ r ∈ s.medium.table.rows, r ∈ rows ∨ s.cursor.asOf ≤ r.time
  stored : 0 < s.stats.pages → s.medium.table.rows ≠ []

theorem Reaching.step (h : Reaching rows s)
    (hStep : Fetch.step source false s = ⟨notices, s', none⟩) : Reaching rows s' := by
  obtain ⟨page, first, rest, inserted, hAbove, hReply, hEntries, hWrite, rfl⟩ :=
    step_continues hStep
  have hTable : (s.written source false first rest inserted).medium.table
      = (s.medium.table.insertAll (first :: rest)).1 := State.table_written source hWrite
  have hCursor : (s.written source false first rest inserted).cursor.asOf
      = if oldestTime first rest < s.cursor.asOf then oldestTime first rest
        else s.cursor.asOf - 1 := Cursor.pass_asOf ..
  refine ⟨fun r hr => ?_, fun _ hNone => ?_⟩
  · -- The cursor ends at the oldest time of the page or below it, and no row is older.
    obtain ⟨added, hRows, hHolds⟩ := Table.holds_of_insertAll s.medium.table (first :: rest)
    rw [hTable, hRows, List.mem_append] at hr
    rcases hr with hOld | hNew
    · refine (h.times r hOld).imp_right fun hLate => ?_
      rw [hCursor]
      split <;> omega
    · obtain ⟨e, he, hRow⟩ := hHolds r hNew
      have hOldest := oldestTime_le he
      right
      rw [hCursor, hRow.time]
      split <;> omega
  · -- A page has a first entry, so the table is not empty after it.
    have hFirst : (s.medium.table.insertAll (first :: rest)).1.contains first.key = true :=
      Table.contains_insertAll.2 (.inr ⟨first, List.mem_cons_self, rfl⟩)
    obtain ⟨r, hr, -⟩ := Table.contains_iff.1 hFirst
    rw [hTable] at hNone
    rw [hNone] at hr
    cases hr

theorem reaching_walk :
    Reaching medium.table.rows (walk source false ⟨start, {}, medium, state⟩).state := by
  refine walk_preserves (fun h hStep => h.step hStep) (fun h hStep => ?_)
    ⟨fun r hr => .inl hr, fun hPages => absurd hPages (Nat.lt_irrefl 0)⟩
  obtain ⟨hCursor, hTable, -⟩ := step_stop hStep
  have hPages := (stats_of_stop hStep).1
  exact ⟨by rw [hCursor, hTable]; exact h.times, by rw [hPages, hTable]; exact h.stored⟩

/-- Where nothing older was stored before, a run is taken up at its cursor or above it. -/
theorem Reaching.asOf_le_startTime (h : Reaching rows s) (hPages : 0 < s.stats.pages)
    (hRecent : ∀ r ∈ rows, s.cursor.asOf ≤ r.time) :
    s.cursor.asOf ≤ (startTime s.medium.table fallback).1 := by
  cases hOldest : s.medium.table.earliest? with
  | none => exact absurd (Table.earliest?_eq_none.1 hOldest) (h.stored hPages)
  | some oldest =>
    obtain ⟨⟨r, hr, hTime⟩, -⟩ := Table.earliest?_eq_some.1 hOldest
    rw [startTime, hOldest]
    show s.cursor.asOf ≤ oldest
    rw [← hTime]
    exact (h.times r hr).elim (hRecent r) id

/-- **Restart.** A run that has written a page, whatever has stopped it, is taken up at the oldest
stored time and then completed. If no row that was there before it is older than the place where it
stopped, the span of the first run is stored. In general it is stored exactly if nothing was missing
between the oldest stored time and that place. -/
theorem restart_complete (hServes : source.Serves history)
    (hSeconds : ∀ second, (history.filter (·.timestamp = second)).length ≤ source.pageSize)
    (hPages : 0 < (run source false start medium state).report.stats.pages)
    (hTable : again.table = (run source false start medium state).medium.table)
    (hEnds : (resume source false fallback start.lowerBound again state').report.reason.isComplete
      = true) :
    let stopped := run source false start medium state
    let restart := (startTime again.table fallback).1
    let completed := resume source false fallback start.lowerBound again state'
    let Stored := ∀ x ∈ spanOf history start.lowerBound start.asOf,
      completed.medium.table.contains x.id = true
    let NoneMissing := ∀ x ∈ spanOf history (max start.lowerBound restart)
      stopped.report.cursor.asOf, stopped.medium.table.contains x.id = true
    ((∀ r ∈ medium.table.rows, stopped.report.cursor.asOf ≤ r.time) → Stored) ∧
      ((history.map (·.id)).Nodup → (Stored ↔ NoneMissing)) := by
  intro stopped restart completed Stored NoneMissing
  have hFirst : Covered history false start medium.table.rows
      (walk source false ⟨start, {}, medium, state⟩).state := covered_walk hServes hSeconds
  have hSecond : Covered history false ⟨restart, start.lowerBound⟩ again.table.rows
      (walk source false ⟨⟨restart, start.lowerBound⟩, {}, again, state'⟩).state :=
    covered_walk hServes hSeconds
  replace hTable : again.table = stopped.medium.table := hTable
  have hBelow := stored_of_complete hServes hSeconds hEnds
  -- Above the restart a swap is stored if the first run passed it, and else if it is not missing.
  have hStored : NoneMissing → Stored := by
    intro hNone x hx
    obtain ⟨hHistory, hBound, hUpTo⟩ := mem_spanOf.1 hx
    by_cases hLate : x.timestamp ≤ restart
    · exact hBelow x (mem_spanOf.2 ⟨hHistory, hBound, hLate⟩)
    by_cases hPlace : x.timestamp ≤ stopped.report.cursor.asOf
    · have hOld := hNone x (mem_spanOf.2 ⟨hHistory, by omega, hPlace⟩)
      exact hSecond.contains_of_old (hTable ▸ hOld)
    · have hOld := hFirst.stored x hHistory hBound (Int.not_le.1 hPlace) hUpTo
      exact hSecond.contains_of_old (hTable ▸ hOld)
  refine ⟨fun hRecent => hStored fun x hx => ?_, fun hIds => ⟨fun hAll x hx => ?_, hStored⟩⟩
  · -- The restart is not below the place where the run stopped, so nothing lies between them.
    have hRestart : stopped.report.cursor.asOf ≤ restart := by
      rw [show restart = _ from congrArg (fun t => (startTime t fallback).1) hTable]
      exact reaching_walk.asOf_le_startTime hPages hRecent
    obtain ⟨-, hAfter, hBefore⟩ := mem_spanOf.1 hx
    omega
  · -- What the restart adds is not later than where it starts.
    obtain ⟨hHistory, hAfter, hBefore⟩ := mem_spanOf.1 hx
    have hUpTo : x.timestamp ≤ start.asOf := Int.le_trans hBefore hFirst.asOf_le
    have hLate : restart < x.timestamp := by omega
    have hContains := hAll x (mem_spanOf.2 ⟨hHistory, by omega, hUpTo⟩)
    exact hTable ▸ hSecond.old_of_contains hIds hHistory hLate hContains

/-- A row that was there before is where the run is taken up, and lies above the place where it
stopped. -/
theorem restart_complete_above :
    let history : List Swap := [.sample "a" 7, .sample "b" 5, .sample "c" 2]
    let source := (Source.ofHistory history 1).failing fun number =>
      if number = 2 then some (.transport "connection reset") else none
    let table := Table.empty.put (Swap.sample "b" 5).entry
    let stopped := run source false ⟨7, 0⟩ (.ofTable table) (0, ())
    let completed := resume source false 7 0 stopped.medium stopped.source
    stopped.report.reason.isError = true ∧ stopped.report.cursor.asOf = 5 ∧
      ∀ x ∈ spanOf history 0 7, completed.medium.table.contains x.id = true := by
  intro history source table stopped completed
  have hSeconds : ∀ second, (history.filter (·.timestamp = second)).length ≤ 1 := by
    intro second
    by_cases hSecond : second = 7 ∨ second = 5 ∨ second = 2
    · obtain rfl | rfl | rfl := hSecond <;> decide
    · have hNone : history.filter (·.timestamp = second) = [] := by
        simp only [history, Swap.sample, List.filter_eq_nil_iff, List.forall_mem_cons,
          decide_eq_true_eq]
        exact ⟨by omega, by omega, by omega, by simp⟩
      rw [hNone]
      exact Nat.zero_le 1
  have hOrder : NewestFirst history := by simp [history, NewestFirst, Swap.sample]
  have hServes : source.Serves history :=
    ((Source.servesInOrder_ofHistory history 1).failing _).serves hOrder
  have hPages : 0 < stopped.report.stats.pages := by decide +kernel
  have hEnds : completed.report.reason.isComplete = true := by decide +kernel
  have hRecent : ∀ r ∈ table.rows, stopped.report.cursor.asOf ≤ r.time := by decide +kernel
  exact ⟨by decide +kernel, by decide +kernel,
    (restart_complete hServes hSeconds hPages rfl hEnds).1 hRecent⟩

/-- A row that was there before and is older than the place where the run stopped: the restart
leaves out what lies between them. -/
theorem restart_passes_over :
    let history : List Swap := [.sample "a" 7, .sample "b" 5, .sample "c" 2]
    let source := (Source.ofHistory history 1).failing fun number =>
      if number = 1 then some (.transport "connection reset") else none
    let table := Table.empty.put (Swap.sample "c" 2).entry
    let stopped := run source false ⟨8, 0⟩ (.ofTable table) (0, ())
    let completed := resume source false 8 0 stopped.medium stopped.source
    (stopped.report.reason.isError = true ∧ 0 < stopped.report.stats.pages) ∧
      completed.report.reason.isComplete = true ∧
        ¬ ∀ x ∈ spanOf history 0 8, completed.medium.table.contains x.id = true := by
  decide +kernel

end SwapArchive.Fetch
