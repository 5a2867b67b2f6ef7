import SwapArchive.Proofs.Fetch.Turns

/-!
# The counts of a run

A run counts the pages that it has written, the swaps on them, those that were new and those that it
has left out. The first three of these counts, and the growth of the table, are the sums over its
turns whatever stops the run. Swaps that are left out are counted before their page is written, so
that this count is the sum over the turns unless a page with such swaps could not be written.
-/

namespace SwapArchive

namespace Table

variable {t : Table} {entries : List Entry}

theorem insertAll_le : (t.insertAll entries).2 ≤ entries.length := by
  induction entries generalizing t with
  | nil => exact Nat.le_refl _
  | cons e rest ih =>
    simp only [insertAll, List.length_cons]
    exact Nat.add_le_add ih (Bool.toNat_le _)

end Table

namespace Fetch

variable {σ : Type} {source : Source σ} {clip : Bool} {s s' t : State σ} {notices : List Notice}
  {reason : StopReason}

namespace Event

def isPage : Event → Bool
  | pageCommitted .. => true
  | started .. | stopped .. => false

/-- The number of swaps on the page that an event tells of. -/
def fetched : Event → Nat
  | pageCommitted fetched _ _ => fetched
  | started .. | stopped .. => 0

/-- The number of swaps on the page that were new. -/
def inserted : Event → Nat
  | pageCommitted _ inserted _ => inserted
  | started .. | stopped .. => 0

end Event

/-- The number of swaps of some turns that a run leaves out. -/
def leftOut (clip : Bool) (bound : Int) (turns : List Turn) : Nat :=
  if clip then (turns.flatMap Turn.page).countP (·.timestamp ≤ bound) else 0

theorem leftOut_append (clip : Bool) (bound : Int) (turns later : List Turn) :
    leftOut clip bound (turns ++ later) = leftOut clip bound turns + leftOut clip bound later := by
  cases clip with
  | false => rfl
  | true => simp [leftOut]

/-- What is left out of a page and what is kept of it make up the page. -/
theorem length_kept (clip : Bool) (bound : Int) (page : List Swap) :
    (kept clip bound (page.map Swap.entry)).length
      + (if clip then page.countP (·.timestamp ≤ bound) else 0) = page.length := by
  cases clip with
  | false => simp [kept]
  | true =>
    have hKept : (kept true bound (page.map Swap.entry)).length
        = page.countP fun x => ¬ x.timestamp ≤ bound := by
      rw [kept, if_pos rfl, ← List.countP_eq_length_filter, List.countP_map]
      refine List.countP_congr fun x _ => ?_
      simp only [Function.comp_apply, Swap.entry, decide_eq_true_eq, Int.not_le]
      exact decide_eq_true_iff
    rw [hKept, if_pos rfl, Nat.add_comm, List.length_eq_countP_add_countP (·.timestamp ≤ bound)]
    simp

/-- **Accounted**: from one state to another, the counts and the table have grown by what some
turns amount to, and no turn stores and leaves out more than its page. -/
structure Accounted (clip : Bool) (s : State σ) (turns : List Turn) (t : State σ) : Prop where
  lowerBound : t.cursor.lowerBound = s.cursor.lowerBound
  pages : t.stats.pages = s.stats.pages + turns.length
  fetched : t.stats.fetched = s.stats.fetched + (turns.map (·.page.length)).sum
  inserted : t.stats.inserted = s.stats.inserted + (turns.map Turn.inserted).sum
  clipped : t.stats.clipped = s.stats.clipped + leftOut clip s.cursor.lowerBound turns
  count : t.medium.table.count = s.medium.table.count + (turns.map Turn.inserted).sum
  fits : (turns.map Turn.inserted).sum + leftOut clip s.cursor.lowerBound turns
    ≤ (turns.map (·.page.length)).sum

theorem Accounted.nil (s : State σ) : Accounted clip s [] s :=
  ⟨rfl, rfl, rfl, rfl, by simp [leftOut], rfl, by simp [leftOut]⟩

/-- **A turn is counted.** -/
theorem Accounted.turn (hStep : step source clip s = ⟨notices, s', none⟩) :
    Accounted clip s [s.turn source s'] s' := by
  obtain ⟨first, rest, -, -, -, hPage, hWrite, hWritten, -⟩ := step_turn hStep
  have hInserted := (Medium.write_ok hWrite).1
  have hTable := State.table_written source hWrite
  generalize s.turn source s' = turn at *
  have hLength : turn.page.length = (first :: rest).length := by
    rw [← hPage, List.length_map]
  -- A page splits into what is kept and what is clipped; both counts follow from that.
  have hKept := length_kept clip s.cursor.lowerBound turn.page
  rw [hPage, hLength] at hKept
  have hLeft : leftOut clip s.cursor.lowerBound [turn]
      = s.clippedOf clip (first :: rest) := by
    rw [State.clippedOf, leftOut, List.flatMap_singleton]
    omega
  have hStored : turn.inserted ≤ (kept clip s.cursor.lowerBound (first :: rest)).length :=
    hInserted ▸ Table.insertAll_le
  subst hWritten
  refine ⟨Cursor.pass_lowerBound .., rfl, ?_, ?_, ?_, ?_, ?_⟩
  · simp [State.written, hLength]
  · simp [State.written]
  · rw [hLeft]
    rfl
  · rw [hTable, Table.count_insertAll, ← hInserted]
    simp
  · rw [hLeft, State.clippedOf]
    simp only [List.map_cons, List.map_nil, List.sum_cons, List.sum_nil, hLength]
    omega

theorem Accounted.append {turns later : List Turn} (h : Accounted clip s turns s')
    (hLater : Accounted clip s' later t) : Accounted clip s (turns ++ later) t where
  lowerBound := hLater.lowerBound.trans h.lowerBound
  pages := by rw [hLater.pages, h.pages, List.length_append, Nat.add_assoc]
  fetched := by rw [hLater.fetched, h.fetched, List.map_append, List.sum_append, Nat.add_assoc]
  inserted := by rw [hLater.inserted, h.inserted, List.map_append, List.sum_append, Nat.add_assoc]
  clipped := by rw [hLater.clipped, h.clipped, h.lowerBound, leftOut_append, Nat.add_assoc]
  count := by rw [hLater.count, h.count, List.map_append, List.sum_append, Nat.add_assoc]
  fits := by
    have hFits := Nat.add_le_add h.fits hLater.fits
    rw [h.lowerBound] at hFits
    simp only [List.map_append, List.sum_append, leftOut_append]
    omega

/-- What a step for a reason to stop fails to write. -/
def State.lost (s : State σ) (source : Source σ) : StopReason → List Swap
  | .storeFailed _ => (s.ask source).reply.toOption.getD []
  | _ => []

/-- **The page that a run fails to write.** It is empty if the run stops for another reason. -/
def lostPage (source : Source σ) (clip : Bool) (s : State σ) : List Swap :=
  match _hStep : step source clip s with
  | ⟨_, _, some reason⟩ => s.lost source reason
  | ⟨_, s', none⟩ => lostPage source clip s'
termination_by (s.cursor.asOf - s.cursor.lowerBound).toNat
decreasing_by
  have hDown := step_descends _hStep
  omega

theorem lostPage_of_stop (h : step source clip s = ⟨notices, s', some reason⟩) :
    lostPage source clip s = s.lost source reason := by
  rw [lostPage]
  split <;> simp_all

theorem lostPage_of_next (h : step source clip s = ⟨notices, s', none⟩) :
    lostPage source clip s = lostPage source clip s' := by
  rw [lostPage]
  split <;> simp_all

/-- Nothing is left out of a page that lies above the bound. -/
theorem clippedOf_of_above {page : List Swap} {entries : List Entry}
    (hPage : entries = page.map Swap.entry)
    (hAbove : clip = true → ∀ x ∈ page, s.cursor.lowerBound < x.timestamp) :
    s.clippedOf clip entries = 0 := by
  have hKept := length_kept clip s.cursor.lowerBound page
  rw [State.clippedOf, hPage, List.length_map]
  cases clip with
  | false => simp [kept]
  | true =>
    have hNone : page.countP (·.timestamp ≤ s.cursor.lowerBound) = 0 := by
      refine List.countP_eq_zero.2 fun x hx => ?_
      simpa using hAbove rfl x hx
    rw [if_pos rfl, hNone, Nat.add_zero] at hKept
    omega

/-- A step that stops counts nothing, unless it leaves swaps out of a page that is not written. -/
theorem stats_of_stop (h : step source clip s = ⟨notices, s', some reason⟩) :
    s'.stats.pages = s.stats.pages ∧ s'.stats.fetched = s.stats.fetched ∧
      s'.stats.inserted = s.stats.inserted ∧
      ((clip = true → ∀ x ∈ lostPage source clip s, s.cursor.lowerBound < x.timestamp) →
        s'.stats.clipped = s.stats.clipped) ∧
      (lostPage source clip s = [] ↔ ∀ message, reason ≠ .storeFailed message) := by
  have hLost := lostPage_of_stop h
  have hStepped := stepped source clip s
  rw [h] at hStepped
  -- Only the stop at a failed write has a page in hand: its clipped swaps are counted before.
  cases hStepped with
  | @unwritten f page first rest hAbove hReply hEntries hWrite =>
    rw [State.lost, hReply] at hLost
    replace hLost : lostPage source clip s = page := hLost
    have hPage := (entriesOf_eq_ok hEntries).2
    refine ⟨rfl, rfl, rfl, fun hNone => ?_, fun hNil => ?_, fun hReason => ?_⟩
    · rw [hLost] at hNone
      rw [State.unwritten, clippedOf_of_above hPage hNone]
      rfl
    · rw [← hLost, hNil] at hPage
      cases hPage
    · exact absurd rfl (hReason f.message)
  | _ => exact ⟨rfl, rfl, rfl, fun _ => rfl, by simp [hLost, State.lost]⟩

/-- What only the events of pages count is the sum over the turns. -/
theorem sum_events (source : Source σ) (clip : Bool) (start : Cursor) (medium : Medium) (state : σ)
    {count : Event → Nat} (hStarted : ∀ asOf bound, count (.started asOf bound) = 0)
    (hStopped : ∀ reason asOf stats, count (.stopped reason asOf stats) = 0) :
    ((eventsOf (run source clip start medium state).notices).map count).sum
      = ((turns source clip ⟨start, {}, medium, state⟩).map fun turn => count turn.event).sum := by
  rw [eventsOf_run]
  simp [hStarted, hStopped, Function.comp_def]

theorem filter_isPage (source : Source σ) (clip : Bool) (start : Cursor) (medium : Medium)
    (state : σ) : (eventsOf (run source clip start medium state).notices).filter Event.isPage
      = (turns source clip ⟨start, {}, medium, state⟩).map Turn.event := by
  have hPages : ∀ event ∈ (turns source clip ⟨start, {}, medium, state⟩).map Turn.event,
      event.isPage = true := by
    intro event hEvent
    obtain ⟨turn, -, rfl⟩ := List.mem_map.1 hEvent
    rfl
  rw [eventsOf_run, List.cons_append, List.filter_cons_of_neg (by simp [Event.isPage]),
    List.filter_append, List.filter_eq_self.2 hPages]
  simp [Event.isPage]

/-- **The counts of a run are those of its turns.** The pages written, the swaps on them and those
that were new are counted by the events as well, and the new ones are the rows that the table has
gained. What is left out is counted for the pages written only, and no page stores and leaves out
more swaps than it has, unless a page with swaps to leave out could not be written. -/
theorem run_accounts (source : Source σ) (clip : Bool) (start : Cursor) (medium : Medium)
    (state : σ) :
    let finished := run source clip start medium state
    let stats := finished.report.stats
    let events := eventsOf finished.notices
    let turns := turns source clip ⟨start, {}, medium, state⟩
    let lost := lostPage source clip ⟨start, {}, medium, state⟩
    events.filter Event.isPage = turns.map Turn.event ∧
      stats.pages = events.countP Event.isPage ∧
      stats.fetched = (events.map Event.fetched).sum ∧
      stats.inserted = (events.map Event.inserted).sum ∧
      finished.medium.table.count = medium.table.count + stats.inserted ∧
      (lost = [] ↔ ∀ message, finished.report.reason ≠ .storeFailed message) ∧
      ((clip = true → ∀ x ∈ lost, start.lowerBound < x.timestamp) →
        stats.clipped = (if clip then
            (turns.flatMap Turn.page).countP (·.timestamp ≤ start.lowerBound) else 0) ∧
          stats.inserted + stats.clipped ≤ stats.fetched) := by
  intro finished stats events turns lost
  let first : State σ := ⟨start, {}, medium, state⟩
  obtain ⟨last, notices, ⟨hTurns, hLost⟩, hLast⟩ := turns_end source clip
    (P := fun s turns t =>
      Accounted clip s turns t ∧ lostPage source clip s = lostPage source clip t)
    (fun s => ⟨.nil s, rfl⟩)
    (fun hStep hRest => ⟨(Accounted.turn hStep).append hRest.1,
      (lostPage_of_next hStep).trans hRest.2⟩) first
  obtain ⟨hPages, hFetched, hInserted, hClipped, hReason⟩ := stats_of_stop hLast
  have hTable := (step_stop hLast).2.1
  have hPageEvents : events.filter Event.isPage = turns.map Turn.event :=
    filter_isPage source clip start medium state
  have hFetchedEvents : (events.map Event.fetched).sum = (turns.map (·.page.length)).sum :=
    sum_events source clip start medium state (fun _ _ => rfl) fun _ _ _ => rfl
  have hInsertedEvents : (events.map Event.inserted).sum = (turns.map Turn.inserted).sum :=
    sum_events source clip start medium state (fun _ _ => rfl) fun _ _ _ => rfl
  -- The counts of a run begin at zero.
  have hSum : stats.inserted = (turns.map Turn.inserted).sum :=
    hInserted.trans (hTurns.inserted.trans (Nat.zero_add _))
  have hFetchedSum : stats.fetched = (turns.map (·.page.length)).sum :=
    hFetched.trans (hTurns.fetched.trans (Nat.zero_add _))
  refine ⟨hPageEvents, ?_, hFetchedSum.trans hFetchedEvents.symm, hSum.trans hInsertedEvents.symm,
    ?_, ?_, fun hAbove => ?_⟩
  · rw [List.countP_eq_length_filter, hPageEvents, List.length_map]
    exact hPages.trans (hTurns.pages.trans (Nat.zero_add _))
  · rw [hSum]
    exact (congrArg Table.count hTable).trans hTurns.count
  · show lostPage source clip first = [] ↔ _
    rw [hLost]
    exact hReason
  · replace hAbove : clip = true → ∀ x ∈ lostPage source clip last,
        last.cursor.lowerBound < x.timestamp := by
      rw [hTurns.lowerBound, ← hLost]
      exact hAbove
    have hLeft : stats.clipped = leftOut clip start.lowerBound turns :=
      (hClipped hAbove).trans (hTurns.clipped.trans (Nat.zero_add _))
    refine ⟨hLeft, ?_⟩
    rw [hSum, hLeft, hFetchedSum]
    exact hTurns.fits

/-- A run that leaves a swap out of a page and stores the others, and one that fails to write a page
above its bound. -/
theorem run_accounts_left_out :
    let history : List Swap := [.sample "a" 7, .sample "b" 6, .sample "c" 3]
    let source := Source.ofHistory history 2
    let full : Medium := ⟨.empty, 0, fun _ => some ⟨1, .database "disk I/O error"⟩, .traceless⟩
    let whole := run source true ⟨7, 5⟩ (.ofTable .empty) ()
    let failed := run source true ⟨7, 5⟩ full ()
    let wholeTurns := turns source true ⟨⟨7, 5⟩, {}, .ofTable .empty, ()⟩
    let failedTurns := turns source true ⟨⟨7, 5⟩, {}, full, ()⟩
    (whole.report.stats = ⟨2, 4, 2, 1⟩ ∧
      whole.report.stats.clipped =
          (if true then (wholeTurns.flatMap Turn.page).countP (·.timestamp ≤ 5) else 0) ∧
        whole.report.stats.inserted + whole.report.stats.clipped
          ≤ whole.report.stats.fetched) ∧
      failed.report.reason = .storeFailed "Database error: disk I/O error" ∧
      failed.report.stats.clipped =
          (if true then (failedTurns.flatMap Turn.page).countP (·.timestamp ≤ 5) else 0) ∧
        failed.report.stats.inserted + failed.report.stats.clipped
          ≤ failed.report.stats.fetched := by
  intro history source full whole failed wholeTurns failedTurns
  have hWhole : ∀ x ∈ lostPage source true ⟨⟨7, 5⟩, {}, .ofTable .empty, ()⟩,
      5 < x.timestamp := by
    decide +kernel
  have hFailed : ∀ x ∈ lostPage source true ⟨⟨7, 5⟩, {}, full, ()⟩, 5 < x.timestamp := by
    decide +kernel
  exact ⟨⟨by decide +kernel,
      (run_accounts source true ⟨7, 5⟩ (.ofTable .empty) ()).2.2.2.2.2.2 fun _ => hWhole⟩,
    by decide +kernel, (run_accounts source true ⟨7, 5⟩ full ()).2.2.2.2.2.2 fun _ => hFailed⟩

/-- A page with a swap left out that cannot be written, and a page below the bound that nothing is
left out of: in neither case is the count that of the pages written. -/
theorem clipped_beside_turns :
    let history : List Swap := [.sample "a" 7, .sample "b" 3]
    let source := Source.ofHistory history 2
    let full : Medium := ⟨.empty, 0, fun _ => some ⟨0, .database "disk I/O error"⟩, .traceless⟩
    let failed := run source true ⟨7, 5⟩ full ()
    let failedTurns := turns source true ⟨⟨7, 5⟩, {}, full, ()⟩
    let whole := run source false ⟨7, 5⟩ (.ofTable .empty) ()
    let wholeTurns := turns source false ⟨⟨7, 5⟩, {}, .ofTable .empty, ()⟩
    (failed.report.stats.clipped ≠ (failedTurns.flatMap Turn.page).countP (·.timestamp ≤ 5) ∧
      ¬ failed.report.stats.inserted + failed.report.stats.clipped
        ≤ failed.report.stats.fetched) ∧
      whole.report.stats.clipped ≠ (wholeTurns.flatMap Turn.page).countP (·.timestamp ≤ 5) := by
  decide +kernel

end Fetch
end SwapArchive
