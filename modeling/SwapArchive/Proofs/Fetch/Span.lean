import SwapArchive.Proofs.Fetch.Resumption

/-!
# Filling a span of time

A history that is served in one order is stored in that order. A run with clipping stores the swaps
between its bound and its start, from the newest one down, so that its table is always a front part
of that span, and all of it once the run is complete.
-/

namespace SwapArchive

namespace Table

variable {t : Table} {entries known : List Entry} {swaps stored new : List Swap} {key : String}

/-- The table in which swaps have been stored, each as a new row, one after the other. -/
def ofSwaps (swaps : List Swap) : Table := Table.empty.putAll (swaps.map Swap.entry)

theorem ofSwaps_append :
    ofSwaps (stored ++ new) = (ofSwaps stored).putAll (new.map Swap.entry) := by
  rw [ofSwaps, List.map_append, putAll_append]
  rfl

/-- The rows of the table of swaps hold these, each once and in their order. -/
theorem holds_ofSwaps : List.Forall₂ Row.Holds (ofSwaps swaps).rows (swaps.map Swap.entry) := by
  obtain ⟨added, hRows, hAll⟩ := rows_putAll Table.empty (swaps.map Swap.entry)
  have hSame : (ofSwaps swaps).rows = added := hRows
  rwa [hSame]

theorem contains_ofSwaps : (ofSwaps swaps).contains key ↔ ∃ x ∈ swaps, x.id = key := by
  simp [ofSwaps, contains_putAll, Swap.entry]

/-- The times of the rows are those of the swaps. -/
theorem times_ofSwaps : (ofSwaps swaps).rows.map (·.time) = swaps.map (·.timestamp) := by
  rw [times_of_holds holds_ofSwaps, List.map_map]
  rfl

theorem earliest?_ofSwaps {time : Int} : (ofSwaps swaps).earliest? = some time ↔
    (∃ x ∈ swaps, x.timestamp = time) ∧ ∀ x ∈ swaps, time ≤ x.timestamp := by
  simp [earliest?, times_ofSwaps, List.min?_eq_some_iff]

/-- Entries that are there already are no new ones. -/
theorem newEntries_append_of_contains (h : ∀ e ∈ known, t.contains e.key = true) :
    t.newEntries (known ++ entries) = t.newEntries entries := by
  induction known with
  | nil => rfl
  | cons e rest ih =>
    rw [List.forall_mem_cons] at h
    rw [List.cons_append, newEntries, if_pos h.1, ih h.2]

/-- Entries with different keys, none of them there before, are all new. -/
theorem newEntries_of_fresh (hFresh : ∀ e ∈ entries, t.contains e.key = false)
    (hKeys : (entries.map (·.key)).Nodup) : t.newEntries entries = entries := by
  induction entries generalizing t with
  | nil => rfl
  | cons e rest ih =>
    rw [List.forall_mem_cons] at hFresh
    rw [List.map_cons, List.nodup_cons] at hKeys
    rw [newEntries, if_neg (by simp [hFresh.1]), ih (fun x hx => ?_) hKeys.2]
    rw [← Bool.not_eq_true, contains_put, hFresh.2 x hx]
    rintro (hOld | hSame)
    · cases hOld
    · exact hKeys.1 (hSame ▸ List.mem_map_of_mem hx)

/-- **A page that goes on where the table ends**: it begins with swaps that are stored, and those
that follow are not. -/
theorem insertAll_ofSwaps {again : List Swap} (hAgain : again ⊆ stored)
    (hIds : ((stored ++ new).map (·.id)).Nodup) :
    ((ofSwaps stored).insertAll ((again ++ new).map Swap.entry)).1 = ofSwaps (stored ++ new) := by
  have hKeys : (new.map Swap.entry).map (·.key) = new.map (·.id) := by
    rw [List.map_map]
    rfl
  rw [List.map_append, List.nodup_append] at hIds
  obtain ⟨-, hNew, hApart⟩ := hIds
  rw [insertAll_eq, List.map_append, newEntries_append_of_contains, newEntries_of_fresh,
    ofSwaps_append]
  · intro e he
    obtain ⟨x, hx, rfl⟩ := List.mem_map.1 he
    rw [← Bool.not_eq_true, contains_ofSwaps]
    rintro ⟨y, hy, hSame⟩
    exact hApart _ (List.mem_map_of_mem hy) _ (List.mem_map_of_mem hx) hSame
  · rwa [hKeys]
  · intro e he
    obtain ⟨x, hx, rfl⟩ := List.mem_map.1 he
    exact contains_ofSwaps.2 ⟨x, hAgain hx, rfl⟩

end Table

/-- **A source that spans can be filled from**: it serves a history of valid swaps with different
ids, the newest first and in one order, and no second has more of them than a page. -/
structure Source.Feeds {σ : Type} (source : Source σ) (history : List Swap) : Prop where
  size : 1 ≤ source.pageSize
  serves : source.ServesInOrder history
  order : NewestFirst history
  valid : ∀ x ∈ history, x.validate = .ok ()
  ids : (history.map (·.id)).Nodup
  seconds : ∀ second, (history.filter (·.timestamp = second)).length ≤ source.pageSize

/-- A history with one swap a second at most suits every page size. -/
theorem Source.Feeds.ofStrict {σ : Type} {source : Source σ} {history : List Swap}
    (hSize : 1 ≤ source.pageSize) (hServes : source.ServesInOrder history)
    (hOrder : history.Pairwise fun a b => b.timestamp < a.timestamp)
    (hValid : ∀ x ∈ history, x.validate = .ok ()) (hIds : (history.map (·.id)).Nodup) :
    source.Feeds history := by
  refine ⟨hSize, hServes, hOrder.imp fun h => Int.le_of_lt h, hValid, hIds, fun second => ?_⟩
  have hSecond : ∀ x ∈ history.filter (·.timestamp = second), x.timestamp = second :=
    fun x hx => of_decide_eq_true (List.mem_filter.1 hx).2
  have hStrict : (history.filter (·.timestamp = second)).Pairwise _ := hOrder.filter _
  generalize history.filter _ = swaps at hSecond hStrict
  match swaps with
  | [] | [_] => exact Nat.le_trans (by simp) hSize
  | x :: y :: _ =>
    have hLater := List.rel_of_pairwise_cons hStrict List.mem_cons_self
    have hx := hSecond x (by simp)
    have hy := hSecond y (by simp)
    omega

/-- The swaps of a history that are later than the bound, and not later than the top. -/
def spanOf (history : List Swap) (bound top : Int) : List Swap :=
  history.filter fun x => bound < x.timestamp ∧ x.timestamp ≤ top

theorem mem_spanOf {history : List Swap} {bound top : Int} {x : Swap} :
    x ∈ spanOf history bound top ↔ x ∈ history ∧ bound < x.timestamp ∧ x.timestamp ≤ top := by
  simp [spanOf]

/-- What is later than a bound comes first, whether a front part is taken before or after the rest
is left out. -/
theorem NewestFirst.filter_take {history : List Swap} (h : NewestFirst history) (bound : Int)
    (n : Nat) : (history.take n).filter (bound < ·.timestamp)
      = (history.filter (bound < ·.timestamp)).take n := by
  induction h generalizing n with
  | nil => simp
  | @cons x rest hNewest _ ih =>
    cases n with
    | zero => simp
    | succ n =>
      by_cases hLate : bound < x.timestamp
      · simp [hLate, ih]
      · -- Nothing after this swap is later than the bound either.
        have hNone : ∀ y ∈ rest, ¬ bound < y.timestamp := by
          intro y hy hBound
          have := hNewest y hy
          omega
        have hLeft : rest.filter (bound < ·.timestamp) = [] := by simpa using hNone
        have hTaken : (rest.take n).filter (bound < ·.timestamp) = [] := by
          simpa using fun y hy => Int.not_lt.1 (hNone y (List.mem_of_mem_take hy))
        simp [hLate, hLeft, hTaken]

namespace Fetch

variable {σ : Type} {source : Source σ} {s s' : State σ} {history stored missing : List Swap}
  {bound top : Int} {c : Cursor} {t : Table}

/-- What a run keeps of a page is a front part of what the span has up to the cursor. -/
theorem page_above_bound (pageSize : Nat) (bound : Int) {asOf : Int} (hOrder : NewestFirst history)
    (hTop : asOf ≤ top) : (pageOf history pageSize asOf).filter (bound < ·.timestamp)
      = ((spanOf history bound top).filter (·.timestamp ≤ asOf)).take pageSize := by
  rw [pageOf, NewestFirst.filter_take (hOrder.sublist List.filter_sublist)]
  congr 1
  rw [spanOf, List.filter_filter, List.filter_filter]
  refine List.filter_congr fun x _ => ?_
  rw [Bool.eq_iff_iff]
  simp only [Bool.and_eq_true, decide_eq_true_eq]
  omega

/-- **Filling** a span: a front part of it is stored and nothing else, and what is missing is not
later than the cursor. -/
structure Filling (history : List Swap) (bound top : Int) (c : Cursor) (t : Table)
    (stored missing : List Swap) : Prop where
  span : spanOf history bound top = stored ++ missing
  table : t = .ofSwaps stored
  lowerBound : c.lowerBound = bound
  asOf_le : c.asOf ≤ top
  missing_le : ∀ x ∈ missing, x.timestamp ≤ c.asOf

/-- What a run keeps of the page at its cursor: something that is stored, and the first of what is
missing. -/
theorem Filling.page (h : Filling history bound top c t stored missing)
    (hOrder : NewestFirst history) (pageSize : Nat) : ∃ again count, again ⊆ stored ∧
      (pageOf history pageSize c.asOf).filter (bound < ·.timestamp)
        = again ++ missing.take count := by
  have hMissing : missing.filter (·.timestamp ≤ c.asOf) = missing :=
    List.filter_eq_self.2 fun x hx => decide_eq_true (h.missing_le x hx)
  have hPage := page_above_bound pageSize bound hOrder h.asOf_le
  rw [h.span, List.filter_append, hMissing, List.take_append] at hPage
  exact ⟨_, _, fun x hx => (List.mem_filter.1 (List.mem_of_mem_take hx)).1, hPage⟩

/-- **A step stores more of the span**, and nothing that it passes over is left out. -/
theorem Filling.step {notices : List Notice} (hFeeds : source.Feeds history)
    (h : Filling history bound top s.cursor s.medium.table stored missing)
    (hStep : Fetch.step source true s = ⟨notices, s', none⟩) : ∃ stored' missing',
      Filling history bound top s'.cursor s'.medium.table stored' missing' := by
  obtain ⟨page, first, rest, inserted, hAbove, hReply, hEntries, hWrite, rfl⟩ :=
    step_continues hStep
  replace hEntries := entries_of_answer hFeeds.serves hFeeds.valid hReply hEntries
  obtain ⟨again, count, hAgain, hKept⟩ := h.page hFeeds.order source.pageSize
  have hSpanIds : ((stored ++ missing).map (·.id)).Nodup := by
    rw [← h.span]
    exact hFeeds.ids.sublist (List.filter_sublist.map _)
  have hSplit : (stored ++ missing.take count) ++ missing.drop count = stored ++ missing := by
    rw [List.append_assoc, List.take_append_drop]
  -- What is kept of the page begins with swaps that are stored, which are not stored again.
  have hTable : (s.written source true first rest inserted).medium.table
      = .ofSwaps (stored ++ missing.take count) := by
    have hEntriesKept : kept true bound (first :: rest)
        = (again ++ missing.take count).map Swap.entry := by
      rw [← hKept, ← hEntries, kept, if_pos rfl, List.filter_map]
      rfl
    rw [State.table_written source hWrite, h.lowerBound, hEntriesKept, h.table,
      Table.insertAll_ofSwaps hAgain]
    rw [← hSplit, List.map_append] at hSpanIds
    exact hSpanIds.of_append_left
  refine ⟨stored ++ missing.take count, missing.drop count, ?_, hTable, ?_, ?_, ?_⟩
  · rw [hSplit, h.span]
  · exact (Cursor.pass_lowerBound ..).trans h.lowerBound
  · exact Int.le_trans (Int.le_of_lt (Cursor.pass_asOf_lt ..)) h.asOf_le
  · intro x hx
    refine Int.not_lt.1 fun hPassed => ?_
    -- A missing swap above the new cursor was on the page, so that it has been stored just now.
    have hMissing : x ∈ missing := List.mem_of_mem_drop hx
    obtain ⟨hHistory, hBound, -⟩ := mem_spanOf.1 (h.span ▸ List.mem_append_right stored hMissing)
    have hPage : x ∈ pageOf history source.pageSize s.cursor.asOf :=
      mem_of_passed (hFeeds.order.isNewestPage _ _) hEntries (hFeeds.seconds _) hHistory
        (h.missing_le x hMissing) hPassed
    have hOnPage : x ∈ again ++ missing.take count := by
      rw [← hKept]
      exact List.mem_filter.2 ⟨hPage, decide_eq_true hBound⟩
    have hStored : x ∈ stored ++ missing.take count :=
      (List.mem_append.1 hOnPage).elim (fun hOld => List.mem_append_left _ (hAgain hOld))
        (List.mem_append_right _)
    have hTwice : (((stored ++ missing.take count) ++ missing.drop count).map (·.id)).Nodup := by
      rwa [hSplit]
    rw [List.map_append, List.nodup_append] at hTwice
    exact hTwice.2.2 _ (List.mem_map_of_mem hStored) _ (List.mem_map_of_mem hx) rfl

/-- A step that stops leaves the table as it is, and does not stop without a failure as long as
something is missing. -/
theorem Filling.stop {notices : List Notice} {reason : StopReason}
    (hFeeds : source.Feeds history)
    (h : Filling history bound top s.cursor s.medium.table stored missing)
    (hStep : Fetch.step source true s = ⟨notices, s', some reason⟩) :
    s'.medium.table = .ofSwaps stored ∧ (reason.isComplete = true → missing = []) := by
  obtain ⟨-, hTable, -, -⟩ := descend_stop hFeeds.serves hFeeds.valid hStep
  refine ⟨hTable.trans h.table, fun hEnds => List.eq_nil_iff_forall_not_mem.2 fun x hx => ?_⟩
  obtain ⟨hHistory, hBound, -⟩ := mem_spanOf.1 (h.span ▸ List.mem_append_right stored hx)
  have hUpTo := h.missing_le x hx
  have hLower := h.lowerBound
  have hStepped := stepped source true s
  rw [hStep] at hStepped
  -- A complete run ends at the bound or on an empty page, and nothing missing lies below either.
  cases hStepped with
  | done hDone => omega
  | exhausted hAbove hReply hEntries =>
    have hNone := entries_of_answer hFeeds.serves hFeeds.valid hReply hEntries
    rw [List.map_eq_nil_iff] at hNone
    have hPage : IsNewestPage history source.pageSize s.cursor.asOf [] :=
      hNone ▸ hFeeds.order.isNewestPage source.pageSize s.cursor.asOf
    have hLate := hPage.lt_of_nil hFeeds.size hHistory
    omega
  | unanswered => cases hEnds
  | invalid => cases hEnds
  | unwritten => cases hEnds

/-- What is missing from a front part of the span is not later than where a run takes it up. -/
theorem Filling.ofStartTime (hOrder : NewestFirst history)
    (hSpan : spanOf history bound top = stored ++ missing) :
    Filling history bound top ⟨min (startTime (.ofSwaps stored) top).1 top, bound⟩
      (.ofSwaps stored) stored missing where
  span := hSpan
  table := rfl
  lowerBound := rfl
  asOf_le := Int.min_le_right _ _
  missing_le x hx := by
    obtain ⟨-, -, hTop⟩ := mem_spanOf.1 (hSpan ▸ List.mem_append_right stored hx)
    refine Int.le_min.2 ⟨?_, hTop⟩
    cases hEarliest : (Table.ofSwaps stored).earliest? with
    | none => simpa [startTime, hEarliest] using hTop
    | some earliest =>
      obtain ⟨⟨y, hy, hTime⟩, -⟩ := Table.earliest?_ofSwaps.1 hEarliest
      -- The oldest stored swap comes before all that is missing.
      have hSorted : NewestFirst (stored ++ missing) := hSpan ▸ hOrder.sublist List.filter_sublist
      have hLater := (List.pairwise_append.1 hSorted).2.2 y hy x hx
      simpa [startTime, hEarliest, ← hTime] using hLater

/-- **A run fills the span.** Taken up at a table with a front part of the span, it leaves a table
with a front part of it, whatever fails, and with all of it if it is complete. -/
theorem run_fills (state : σ) (medium : Medium) (hFeeds : source.Feeds history)
    (hFront : stored <+: spanOf history bound top) (hTable : medium.table = .ofSwaps stored) :
    let finished :=
      run source true ⟨min (startTime medium.table top).1 top, bound⟩ medium state
    ∃ stored', stored' <+: spanOf history bound top ∧
      finished.medium.table = .ofSwaps stored' ∧
      (finished.report.reason.isComplete = true → stored' = spanOf history bound top) := by
  intro finished
  obtain ⟨missing, hSpan⟩ := hFront
  obtain ⟨last, notices, hPasses, hLast⟩ := walk_ends source true
    ⟨⟨min (startTime medium.table top).1 top, bound⟩, {}, medium, state⟩
  -- The start of a run continues the rows from before, and every page extends them.
  have hStart : ∃ stored missing, Filling history bound top
      ⟨min (startTime medium.table top).1 top, bound⟩ medium.table stored missing := by
    rw [hTable]
    exact ⟨stored, missing, .ofStartTime hFeeds.order hSpan.symm⟩
  obtain ⟨stored', missing', hFilling⟩ := hPasses.preserves
    (P := fun u => ∃ stored missing,
      Filling history bound top u.cursor u.medium.table stored missing)
    (fun ⟨_, _, h⟩ hStep => h.step hFeeds hStep) hStart
  obtain ⟨hLeft, hNothing⟩ := hFilling.stop hFeeds hLast
  refine ⟨stored', ⟨missing', hFilling.span.symm⟩, hLeft, fun hEnds => ?_⟩
  rw [hFilling.span, hNothing hEnds, List.append_nil]

end Fetch
end SwapArchive
