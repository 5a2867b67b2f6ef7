import SwapArchive.Proofs.Fetch.Turns

/-!
# The stages of a run

A run leaves what it has written whole. Whatever stops it, the table and the cursor at its end are
those that were there when its last page was told, so that a page that fails in any way leaves
nothing behind. Nothing is assumed of the source here.
-/

namespace SwapArchive.Fetch

variable {σ : Type} {source : Source σ} {clip : Bool} {s s' t : State σ} {notices : List Notice}
  {reason : StopReason}

/-- **Stages** of a run: what is told in each step that goes on, and the state that it leaves. -/
def stages (source : Source σ) (clip : Bool) (s : State σ) : List (Event × State σ) :=
  match _hStep : step source clip s with
  | ⟨_, _, some _⟩ => []
  | ⟨notices, s', none⟩ => (eventsOf notices).map (·, s') ++ stages source clip s'
termination_by (s.cursor.asOf - s.cursor.lowerBound).toNat
decreasing_by
  have hDown := step_descends _hStep
  omega

theorem stages_of_stop (h : step source clip s = ⟨notices, s', some reason⟩) :
    stages source clip s = [] := by
  rw [stages]
  split <;> simp_all

theorem stages_of_next (h : step source clip s = ⟨notices, s', none⟩) :
    stages source clip s = ((s.turn source s').event, s') :: stages source clip s' := by
  have hEvents := eventsOf_turn h
  rw [stages]
  split <;> simp_all

/-- **A run stops by a step from its last stage**, or from where it starts if it has none. -/
theorem stages_end (source : Source σ) (clip : Bool) (s : State σ) :
    ∃ notices, step source clip (((stages source clip s).map Prod.snd).getLastD s) =
      ⟨notices, (walk source clip s).state, some (walk source clip s).reason⟩ := by
  fun_induction walk source clip s with
  | case1 s notices s' reason hStep =>
    rw [stages_of_stop hStep]
    exact ⟨notices, hStep⟩
  | case2 s notices s' hStep rest ih =>
    rw [stages_of_next hStep, List.map_cons, List.getLastD_cons]
    exact ih

theorem fst_stages (source : Source σ) (clip : Bool) (s : State σ) :
    (stages source clip s).map Prod.fst = (turns source clip s).map Turn.event := by
  fun_induction walk source clip s with
  | case1 s notices s' reason hStep => rw [stages_of_stop hStep, turns_of_stop hStep]; rfl
  | case2 s notices s' hStep rest ih =>
    rw [stages_of_next hStep, turns_of_next hStep, List.map_cons, List.map_cons, ih]

theorem cursor_of_mem_stages {stage : Event × State σ} (h : stage ∈ stages source clip s) :
    ∃ fetched inserted, stage.1 = .pageCommitted fetched inserted stage.2.cursor.asOf := by
  fun_induction walk source clip s with
  | case1 s notices s' reason hStep =>
    rw [stages_of_stop hStep] at h
    cases h
  | case2 s notices s' hStep rest ih =>
    rw [stages_of_next hStep] at h
    rcases List.mem_cons.1 h with rfl | hLater
    · exact ⟨_, _, rfl⟩
    · exact ih hLater

/-- **Unserved**: above its bound, a run gets no page of valid swaps. -/
def State.Unserved (s : State σ) (source : Source σ) : Prop :=
  s.cursor.lowerBound < s.cursor.asOf ∧
    ∀ page, (s.ask source).reply = .ok page → ∃ x ∈ page, x.validate ≠ .ok ()

/-- **Unwritable**: above its bound, a run gets a page of valid swaps, and what it keeps of it is
not written. -/
def State.Unwritable (s : State σ) (source : Source σ) (clip : Bool) : Prop :=
  s.cursor.lowerBound < s.cursor.asOf ∧
    ∃ page, (s.ask source).reply = .ok page ∧ page ≠ [] ∧ (∀ x ∈ page, x.validate = .ok ()) ∧
      ∃ f, (s.medium.write (kept clip s.cursor.lowerBound (page.map Swap.entry))).1 = .error f

theorem exists_invalid {page : List Swap} {f : Failure} (h : entriesOf page = .error f) :
    ∃ x ∈ page, x.validate ≠ .ok () := by
  by_contra hNone
  push Not at hNone
  rw [entriesOf_of_valid hNone] at h
  cases h

theorem not_unserved {page : List Swap} {entries : List Entry}
    (hReply : (s.ask source).reply = .ok page) (hEntries : entriesOf page = .ok entries) :
    ¬ s.Unserved source := by
  rintro ⟨-, hInvalid⟩
  obtain ⟨x, hx, hFails⟩ := hInvalid page hReply
  exact hFails ((entriesOf_eq_ok hEntries).1 x hx)

/-- A step fails for the source exactly where it gets no page of valid swaps. -/
theorem sourceFailed_iff (h : step source clip s = ⟨notices, s', some reason⟩) :
    (∃ message, reason = .sourceFailed message) ↔ s.Unserved source := by
  have hStepped := stepped source clip s
  rw [h] at hStepped
  cases hStepped with
  | done hDone =>
    refine ⟨nofun, fun hUnserved => ?_⟩
    exact absurd hUnserved.1 (Int.not_lt.2 hDone)
  | unanswered hAbove hReply =>
    refine ⟨fun _ => ⟨hAbove, fun page hPage => ?_⟩, fun _ => ⟨_, rfl⟩⟩
    rw [hReply] at hPage
    cases hPage
  | @invalid f page hAbove hReply hEntries =>
    refine ⟨fun _ => ⟨hAbove, fun other hOther => ?_⟩, fun _ => ⟨_, rfl⟩⟩
    obtain rfl : page = other := Except.ok.inj (hReply.symm.trans hOther)
    exact exists_invalid hEntries
  | exhausted _ hReply hEntries => exact ⟨nofun, fun h => absurd h (not_unserved hReply hEntries)⟩
  | unwritten _ hReply hEntries => exact ⟨nofun, fun h => absurd h (not_unserved hReply hEntries)⟩

/-- A step fails for the table exactly where a page of valid swaps is not written. -/
theorem storeFailed_iff (h : step source clip s = ⟨notices, s', some reason⟩) :
    (∃ message, reason = .storeFailed message) ↔ s.Unwritable source clip := by
  -- The page of which the state tells is the one that the step has got.
  have hStepped := stepped source clip s
  rw [h] at hStepped
  cases hStepped with
  | done hDone =>
    refine ⟨nofun, fun hUnwritable => ?_⟩
    exact absurd hUnwritable.1 (Int.not_lt.2 hDone)
  | unanswered hAbove hReply =>
    refine ⟨nofun, ?_⟩
    rintro ⟨-, page, hPage, -⟩
    rw [hReply] at hPage
    cases hPage
  | @invalid f page hAbove hReply hEntries =>
    refine ⟨nofun, ?_⟩
    rintro ⟨-, other, hOther, -, hValid, -⟩
    obtain rfl : page = other := Except.ok.inj (hReply.symm.trans hOther)
    rw [entriesOf_of_valid hValid] at hEntries
    cases hEntries
  | @exhausted page hAbove hReply hEntries =>
    refine ⟨nofun, ?_⟩
    rintro ⟨-, other, hOther, hSome, -⟩
    obtain rfl : page = other := Except.ok.inj (hReply.symm.trans hOther)
    exact absurd (List.map_eq_nil_iff.1 (entriesOf_eq_ok hEntries).2.symm) hSome
  | @unwritten f page first rest hAbove hReply hEntries hWrite =>
    obtain ⟨hValid, hPage⟩ := entriesOf_eq_ok hEntries
    refine ⟨fun _ => ⟨hAbove, page, hReply, ?_, hValid, f, hPage ▸ hWrite⟩, fun _ => ⟨_, rfl⟩⟩
    rintro rfl
    cases hPage

/-- **Offered**: the entries that are kept of the pages of some turns, in their order. -/
def offered (clip : Bool) (bound : Int) (turns : List Turn) : List Entry :=
  kept clip bound ((turns.flatMap Turn.page).map Swap.entry)

theorem kept_append (clip : Bool) (bound : Int) (entries entries' : List Entry) :
    kept clip bound (entries ++ entries')
      = kept clip bound entries ++ kept clip bound entries' := by
  cases clip with
  | false => rfl
  | true => exact List.filter_append ..

/-- **Offering**: some turns lead from one state to another, and the table there is the first one
with what the turns offer written to it. -/
structure Offering (clip : Bool) (s : State σ) (turns : List Turn) (t : State σ) : Prop where
  lowerBound : t.cursor.lowerBound = s.cursor.lowerBound
  table : t.medium.table
    = (s.medium.table.insertAll (offered clip s.cursor.lowerBound turns)).1

theorem Offering.nil (s : State σ) : Offering clip s [] s := by
  refine ⟨rfl, ?_⟩
  cases clip <;> rfl

/-- **A turn writes what is kept of its page.** -/
theorem Offering.turn {turns : List Turn} (hStep : step source clip s = ⟨notices, s', none⟩)
    (h : Offering clip s' turns t) : Offering clip s (s.turn source s' :: turns) t := by
  have hBound : s'.cursor.lowerBound = s.cursor.lowerBound := (step_descends hStep).2.1
  obtain ⟨first, rest, -, -, -, hPage, hWrite, hWritten, -⟩ := step_turn hStep
  have hTable : s'.medium.table
      = (s.medium.table.insertAll (kept clip s.cursor.lowerBound (first :: rest))).1 := by
    rw [hWritten]
    exact State.table_written source hWrite
  refine ⟨h.lowerBound.trans hBound, ?_⟩
  rw [h.table, hTable, hBound, offered, offered, List.flatMap_cons, List.map_append, kept_append,
    hPage, Table.insertAll_append]

/-- The rows that a run adds hold what its turns offer, without what is there already. -/
theorem rows_walk (source : Source σ) (clip : Bool) (s : State σ) :
    ∃ added, (walk source clip s).state.medium.table.rows = s.medium.table.rows ++ added ∧
      List.Forall₂ Row.Holds added
        (s.medium.table.newEntries (offered clip s.cursor.lowerBound (turns source clip s))) := by
  obtain ⟨last, notices, hTurns, hLast⟩ := turns_end source clip (P := Offering clip) .nil .turn s
  rw [(step_stop hLast).2.1, hTurns.table]
  exact Table.rows_insertAll _ _

/-- **A run leaves the pages that it has written, and nothing else.** Whatever a source answers and
whatever fails, the table and the cursor at the end are those of the last stage, or those of the
start if no page has been told. A run fails for the source exactly if there it is not answered, or
answered with a page of which any swap is not valid; and for the table exactly if there a page of
valid swaps is not written. The rows that were there before stay as they are, and those that follow
them hold the entries of the pages that have been told, in their order: above the bound with
clipping, not there before, and the first one under each key. -/
theorem run_keeps_written_pages (source : Source σ) (clip : Bool) (start : Cursor)
    (medium : Medium) (state : σ) :
    let first : State σ := ⟨start, {}, medium, state⟩
    let finished := run source clip start medium state
    let report := finished.report
    let stages := stages source clip first
    let last := (stages.map Prod.snd).getLastD first
    let turns := turns source clip first
    let entries := (turns.flatMap Turn.page).map Swap.entry
    eventsOf finished.notices = .started start.asOf start.lowerBound :: stages.map Prod.fst
        ++ [.stopped report.reason report.cursor.asOf report.stats] ∧
      stages.map Prod.fst = turns.map Turn.event ∧
      (∀ stage ∈ stages, ∃ fetched inserted,
        stage.1 = .pageCommitted fetched inserted stage.2.cursor.asOf) ∧
      finished.medium.table = last.medium.table ∧
      report.cursor = last.cursor ∧
      ((∃ message, report.reason = .sourceFailed message) ↔ last.Unserved source) ∧
      ((∃ message, report.reason = .storeFailed message) ↔ last.Unwritable source clip) ∧
      ∃ added, finished.medium.table.rows = medium.table.rows ++ added ∧
        List.Forall₂ Row.Holds added
          ((entries.filter fun e => (!clip || decide (start.lowerBound < e.time))
            && !medium.table.contains e.key).eraseDupsBy fun a b => a.key == b.key) := by
  intro first finished report stages last turns entries
  obtain ⟨notices, hLast⟩ := stages_end source clip first
  obtain ⟨hCursor, hTable, -⟩ := step_stop hLast
  have hTold : stages.map Prod.fst = turns.map Turn.event := fst_stages source clip first
  obtain ⟨added, hRows, hHold⟩ := rows_walk source clip first
  refine ⟨?_, hTold, fun stage => cursor_of_mem_stages, hTable, hCursor, sourceFailed_iff hLast,
    storeFailed_iff hLast, added, hRows, ?_⟩
  · rw [hTold]
    exact eventsOf_run source clip start medium state
  · -- What is new among the entries told is what the table of the start does not have.
    have hKept : offered clip start.lowerBound turns
        = entries.filter fun e => !clip || decide (start.lowerBound < e.time) := by
      cases clip with
      | false => simp [offered, kept, entries]
      | true => simp [offered, kept, entries]
    have hOffered : (offered clip start.lowerBound turns).filter
          (fun e => !medium.table.contains e.key)
        = entries.filter fun e => (!clip || decide (start.lowerBound < e.time))
            && !medium.table.contains e.key := by
      rw [hKept, List.filter_filter]
      exact List.filter_congr fun e _ => Bool.and_comm ..
    rw [← hOffered, ← Table.newEntries_eq]
    exact hHold

-- The second page ends with a swap that has no id.
example :
    let pages : List (List Swap) := [[.sample "b" 9, .sample "a" 8], [.sample "c" 7, .sample "" 6]]
    let finished := run (Source.ofPages 2) true ⟨10, 0⟩ (.ofTable .empty) pages
    finished.report.reason = .sourceFailed "Malformed response: swap without id" ∧
      finished.report.cursor = ⟨8, 0⟩ ∧ finished.medium.table.rows.map (·.key) = ["b", "a"] := by
  decide +kernel

end SwapArchive.Fetch
