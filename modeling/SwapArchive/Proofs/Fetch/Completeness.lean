import SwapArchive.Proofs.Fetch.Pages

/-!
# A run fetches all there is

The invariant of a run is that every swap above its cursor has been stored. It survives a page that
is cut in the middle of a second, because the cursor then stays on that second, and a page that
does not go below the cursor, because such a page holds all of its second.
-/

namespace SwapArchive.Fetch

variable {σ : Type} {source : Source σ} {clip : Bool} {s s' : State σ} {history : List Swap}
  {start : Cursor} {rows : List Row}

/-- **Covered**: every swap of the history above the cursor is stored, down to the lower bound, and
every row that has been added holds a swap of the history up to where the run started; with
clipping, one above the lower bound. -/
structure Covered (history : List Swap) (clip : Bool) (start : Cursor) (rows : List Row)
    (s : State σ) : Prop where
  lowerBound : s.cursor.lowerBound = start.lowerBound
  asOf_le : s.cursor.asOf ≤ start.asOf
  stored : ∀ x ∈ history, start.lowerBound < x.timestamp → s.cursor.asOf < x.timestamp →
    x.timestamp ≤ start.asOf → s.medium.table.contains x.id = true
  added : ∃ added, s.medium.table.rows = rows ++ added ∧ ∀ r ∈ added, ∃ x ∈ history,
    r.Holds x.entry ∧ x.timestamp ≤ start.asOf ∧ (clip = true → start.lowerBound < x.timestamp)

/-- A run starts out covered: there is nothing between its cursor and where it starts. -/
theorem Covered.initial {medium : Medium} {state : σ} {stats : Stats} :
    Covered history clip start medium.table.rows ⟨start, stats, medium, state⟩ where
  lowerBound := rfl
  asOf_le := Int.le_refl _
  stored x _ _ hAbove hUpTo := absurd hAbove (Int.not_lt.2 hUpTo)
  added := ⟨[], by simp, by simp⟩

theorem Cursor.pass_asOf (c : Cursor) (oldest : Int) (fetched pageSize : Nat) :
    (c.pass oldest fetched pageSize).1.asOf = if oldest < c.asOf then oldest else c.asOf - 1 := by
  unfold Cursor.pass
  split <;> rfl

/-- **A page brings all that the cursor passes over.** A swap between the cursor before a page and
the one after it is on the page. -/
theorem mem_of_passed {page : List Swap} {first : Entry} {rest : List Entry} {c : Cursor}
    {pageSize : Nat} {x : Swap} (hPage : IsNewestPage history pageSize c.asOf page)
    (hEntries : page.map Swap.entry = first :: rest)
    (hSecond : (history.filter (·.timestamp = c.asOf)).length ≤ pageSize)
    (hx : x ∈ history) (hUpTo : x.timestamp ≤ c.asOf)
    (hPassed : (c.pass (oldestTime first rest) (first :: rest).length pageSize).1.asOf
      < x.timestamp) : x ∈ page := by
  rw [Cursor.pass_asOf] at hPassed
  split at hPassed
  · obtain ⟨y, hy, hOldest⟩ := exists_oldest hEntries
    exact hPage.mem_of_oldest_lt hy hx hUpTo (by omega)
  · next hStays =>
    refine hPage.mem_of_second hSecond (fun y hy => ?_) hx (by omega)
    have hOldest := oldestTime_le_timestamp hEntries hy
    have hNewest := (hPage.mem hy).2
    omega

/-- **A step keeps the run covered.** -/
theorem Covered.step {notices : List Notice} (hServes : source.Serves history)
    (hSeconds : ∀ second, start.lowerBound < second → second ≤ start.asOf →
      (history.filter (·.timestamp = second)).length ≤ source.pageSize)
    (h : Covered history clip start rows s)
    (hStep : Fetch.step source clip s = ⟨notices, s', none⟩) :
    Covered history clip start rows s' := by
  obtain ⟨page, first, rest, inserted, hAbove, hReply, hEntries, hWrite, rfl⟩ :=
    step_continues hStep
  have hPage : IsNewestPage history source.pageSize s.cursor.asOf page := hServes _ _ _ hReply
  replace hEntries : page.map Swap.entry = first :: rest := (entriesOf_eq_ok hEntries).2.symm
  -- The cursor keeps its lower bound, so rows are kept against the bound of the start.
  have hLower := h.lowerBound
  have hStart := h.asOf_le
  have hTable := State.table_written source hWrite
  rw [← hEntries, hLower] at hTable
  refine ⟨?_, ?_, ?_, ?_⟩
  · exact (Cursor.pass_lowerBound ..).trans hLower
  · exact Int.le_trans (Int.le_of_lt (Cursor.pass_asOf_lt ..)) hStart
  · -- What the cursor passes over is on the page, and is stored with it.
    intro x hx hBound hPassed hUpTo
    rw [hTable, Table.contains_insertAll]
    by_cases hBefore : s.cursor.asOf < x.timestamp
    · exact .inl (h.stored x hx hBound hBefore hUpTo)
    · have hSecond := hSeconds s.cursor.asOf (by omega) hStart
      have hMem : x ∈ page := mem_of_passed hPage hEntries hSecond hx (by omega) hPassed
      exact .inr ⟨x.entry, mem_kept.2 ⟨List.mem_map_of_mem hMem, fun _ => hBound⟩, rfl⟩
  · -- A row is added for nothing that was not on this page or on one before.
    obtain ⟨added, hRows, hAdded⟩ := h.added
    obtain ⟨more, hMore, hHolds⟩ := Table.holds_of_insertAll s.medium.table
      (kept clip start.lowerBound (page.map Swap.entry))
    refine ⟨added ++ more, by rw [hTable, hMore, hRows, List.append_assoc], ?_⟩
    intro r hr
    rcases List.mem_append.1 hr with hOld | hNew
    · exact hAdded r hOld
    · obtain ⟨e, hKept, hRow⟩ := hHolds r hNew
      obtain ⟨hMem, hClip⟩ := mem_kept.1 hKept
      obtain ⟨x, hx, rfl⟩ := List.mem_map.1 hMem
      obtain ⟨hHistory, hUpTo⟩ := hPage.mem hx
      exact ⟨x, hHistory, hRow, Int.le_trans hUpTo hStart, hClip⟩

/-- A run that stops without a failure has nothing left between its bound and its cursor. -/
theorem lt_of_complete {notices : List Notice} {reason : StopReason}
    (hSize : 1 ≤ source.pageSize) (hServes : source.Serves history)
    (hStep : Fetch.step source clip s = ⟨notices, s', some reason⟩)
    (hEnds : reason.isComplete = true) {x : Swap} (hx : x ∈ history)
    (hBound : s.cursor.lowerBound < x.timestamp) : s.cursor.asOf < x.timestamp := by
  have hStepped := stepped source clip s
  rw [hStep] at hStepped
  cases hStepped with
  | done hDone => omega
  | exhausted hAbove hReply hEntries =>
    obtain rfl := List.map_eq_nil_iff.1 (entriesOf_eq_ok hEntries).2.symm
    exact (hServes _ _ _ hReply).lt_of_nil hSize hx
  | unanswered => cases hEnds
  | invalid => cases hEnds
  | unwritten => cases hEnds

/-- A run that is complete has nothing left between its bound and the place where it stops. -/
theorem lt_of_walk_complete (hSize : 1 ≤ source.pageSize) (hServes : source.Serves history)
    (hEnds : (walk source clip s).reason.isComplete = true) {x : Swap} (hx : x ∈ history)
    (hBound : (walk source clip s).state.cursor.lowerBound < x.timestamp) :
    (walk source clip s).state.cursor.asOf < x.timestamp := by
  obtain ⟨last, notices, -, hLast⟩ := walk_ends source clip s
  have hCursor := (step_stop hLast).1
  rw [hCursor] at hBound ⊢
  exact lt_of_complete hSize hServes hLast hEnds hx hBound

/-- How a run in which nothing fails comes to its end: it reaches the bound, or the source has
nothing up to its cursor. -/
theorem Unfailing.last {last : State σ} {notices : List Notice} {reason : StopReason}
    (h : Unfailing source clip s) (hPasses : Passes source clip s last)
    (hValid : ∀ asOf state page, (source.fetch asOf state).reply = .ok page →
      ∀ x ∈ page, x.validate = .ok ())
    (hLast : Fetch.step source clip last = ⟨notices, s', some reason⟩) :
    s'.medium = last.medium ∧
      ((reason = .boundReached ∧ last.cursor.asOf ≤ last.cursor.lowerBound) ∨
        (reason = .exhausted ∧ (last.ask source).reply = .ok [])) := by
  have hStepped := stepped source clip last
  rw [hLast] at hStepped
  -- Each way to stop other than these two needs a failure, which `Unfailing` excludes.
  cases hStepped with
  | done hDone => exact ⟨rfl, .inl ⟨rfl, hDone⟩⟩
  | unanswered hAbove hReply =>
    obtain ⟨page, hAnswer⟩ := h.answers hPasses hAbove
    rw [hReply] at hAnswer
    cases hAnswer
  | invalid hAbove hReply hEntries =>
    rw [entriesOf_of_valid (hValid _ _ _ hReply)] at hEntries
    cases hEntries
  | exhausted hAbove hReply hEntries =>
    rw [entriesOf_of_valid (hValid _ _ _ hReply)] at hEntries
    obtain rfl := List.map_eq_nil_iff.1 (Except.ok.inj hEntries)
    exact ⟨rfl, .inr ⟨rfl, hReply⟩⟩
  | unwritten => exact absurd (congrArg Step.reason hLast) (h.writes hPasses)

/-- A run in which nothing fails, of valid swaps, is complete. -/
theorem Unfailing.isComplete (h : Unfailing source clip s)
    (hValid : ∀ asOf state page, (source.fetch asOf state).reply = .ok page →
      ∀ x ∈ page, x.validate = .ok ()) :
    (walk source clip s).reason.isComplete = true := by
  obtain ⟨last, notices, hPasses, hLast⟩ := walk_ends source clip s
  obtain ⟨-, ⟨hReason, -⟩ | ⟨hReason, -⟩⟩ := h.last hPasses hValid hLast <;> rw [hReason] <;> rfl

/-- **Completeness.** A run in which nothing fails ends because it has reached its lower bound or
because there is nothing left, and then all swaps of the history above the bound, up to where it
started, are stored. What it has added are swaps of the history up to where it started; with
clipping, swaps above the bound. The source may put the swaps of one second in any order, and in a
different one for every question, as long as no second of the span has more of them than a page. -/
theorem run_stores_history {medium : Medium} {state : σ} (hSize : 1 ≤ source.pageSize)
    (hServes : source.Serves history) (hValid : ∀ x ∈ history, x.validate = .ok ())
    (hSeconds : ∀ second, start.lowerBound < second → second ≤ start.asOf →
      (history.filter (·.timestamp = second)).length ≤ source.pageSize)
    (hUnfailing : Unfailing source clip ⟨start, {}, medium, state⟩) :
    let finished := run source clip start medium state
    (finished.report.reason = .boundReached ∨ finished.report.reason = .exhausted) ∧
      (∀ x ∈ history, start.lowerBound < x.timestamp → x.timestamp ≤ start.asOf →
        finished.medium.table.contains x.id = true) ∧
      ∃ added, finished.medium.table.rows = medium.table.rows ++ added ∧
        ∀ r ∈ added, ∃ x ∈ history, r.Holds x.entry ∧ x.timestamp ≤ start.asOf ∧
          (clip = true → start.lowerBound < x.timestamp) := by
  intro finished
  obtain ⟨last, notices, hPasses, hLast⟩ := walk_ends source clip ⟨start, {}, medium, state⟩
  have hCovered : Covered history clip start medium.table.rows last :=
    hPasses.preserves (fun h hStep => h.step hServes hSeconds hStep) .initial
  obtain ⟨hMedium, hReason⟩ := hUnfailing.last hPasses
    (fun _ _ _ hReply x hx => hValid x ((hServes _ _ _ hReply).mem hx).1) hLast
  have hLower := hCovered.lowerBound
  have hFinal : finished.medium = last.medium := hMedium
  rw [hFinal]
  refine ⟨hReason.imp And.left And.left, fun x hx hBound hUpTo => ?_, hCovered.added⟩
  refine hCovered.stored x hx hBound ?_ hUpTo
  -- A swap above the bound is above the last cursor too, or it would be on a page without swaps.
  rcases hReason with ⟨-, hDone⟩ | ⟨-, hNone⟩
  · omega
  · exact (hServes _ _ _ hNone).lt_of_nil hSize hx

/-- A page cut in the middle of a second, clipping, and a table that holds a row already. -/
theorem run_stores_history_cut_second :
    let history : List Swap := [.sample "a" 7, .sample "b" 6, .sample "c" 6, .sample "d" 3]
    let source := Source.ofHistory history 2
    let table := Table.empty.put (Swap.sample "b" 6).entry
    let finished := run source true ⟨7, 4⟩ (.ofTable table) ()
    (∀ x ∈ history, x.validate = .ok ()) ∧
      (finished.report.reason = .boundReached ∨ finished.report.reason = .exhausted) ∧
      (∀ x ∈ history, 4 < x.timestamp → x.timestamp ≤ 7 →
        finished.medium.table.contains x.id = true) ∧
      ∃ added, finished.medium.table.rows = table.rows ++ added ∧
        ∀ r ∈ added, ∃ x ∈ history, r.Holds x.entry ∧ x.timestamp ≤ 7 ∧
          (true = true → 4 < x.timestamp) := by
  intro history source table finished
  have hOrder : NewestFirst history := by simp [history, NewestFirst, Swap.sample]
  have hValid : ∀ x ∈ history, x.validate = .ok () := by
    simp only [history, List.forall_mem_cons]
    refine ⟨?_, ?_, ?_, ?_, by simp⟩ <;> exact Swap.validate_sample rfl (by decide)
  have hUnfailing : Unfailing source true ⟨⟨7, 4⟩, {}, .ofTable table, ()⟩ :=
    unfailing_of_ready (fun _ _ => ⟨_, rfl⟩) (fun _ => rfl) rfl
  have hSeconds : ∀ second : Int, 4 < second → second ≤ 7 →
      (history.filter (·.timestamp = second)).length ≤ 2 := by
    intro second hAbove hUpTo
    obtain rfl | rfl | rfl : second = 5 ∨ second = 6 ∨ second = 7 := by omega
    all_goals decide
  exact ⟨hValid, run_stores_history (by decide)
    ((Source.servesInOrder_ofHistory history 2).serves hOrder) hValid hSeconds hUnfailing⟩

end SwapArchive.Fetch
