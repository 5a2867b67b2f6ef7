import SwapArchive.Fetch.Event
import SwapArchive.Source.Basic
import SwapArchive.Store.Table

/-!
# Fetching backward in time

A run asks the source for the newest swaps up to its cursor, writes the page, and moves the cursor
down to the oldest time on it. The time itself is asked for again, because the page may not hold
all swaps of that second; what is already stored changes nothing. A page that does not move the
cursor holds swaps of a single second, and the run steps over that second.

## Design notes

A step that does not stop the run moves the cursor down, so a run takes no more steps than there
are seconds between the cursor and the bound. A page is written whole or not at all, and the
cursor moves only after the page is written, so a run that fails can be taken up at the oldest
swap stored.
-/

namespace SwapArchive.Fetch

/-- A table that pages are written to, and whether it can be written. Writes are numbered, and some
of them are interrupted. -/
structure Medium where
  table : Table
  writes : Nat
  fault : Nat → Option Interruption
  writing : Writing

/-- A table that every write succeeds on. -/
def Medium.ofTable (t : Table) : Medium := ⟨t, 0, fun _ => none, .traceless⟩

/-- Writes a page and tells how many of its entries were new. -/
def Medium.write (m : Medium) (entries : List Entry) : Outcome Nat × Medium :=
  let (written, table) := m.table.write m.writing (m.fault m.writes) entries
  (written, { m with writes := m.writes + 1, table := table })

/-- The entries of a page, if every swap on it is valid. -/
def entriesOf : List Swap → Outcome (List Entry)
  | [] => .ok []
  | s :: rest => do
    let e ← Entry.ofSwap s
    return e :: (← entriesOf rest)

/-- The least time of an entry and those after it. -/
def oldestTime (first : Entry) (rest : List Entry) : Int :=
  rest.foldl (fun t e => min t e.time) first.time

/-- What is reported of a second that fills a page by itself. -/
def fullSecond (second : Int) (fetched : Nat) : Log.Record :=
  .warn "full page within a single second, swaps beyond the page size may be missed"
    [("second", toString second), ("fetched", toString fetched)]

/-- What is reported of a second that is stepped over. -/
def steppedBack (second : Int) : Log.Record :=
  .debug "page did not move cursor, stepping back" [("second", toString second)]

/-- **Cursor after a page**: the oldest time of the page, or one second down if that is not below
the cursor. In that case swaps may be missing if the page is full. -/
def Cursor.pass (c : Cursor) (oldest : Int) (fetched pageSize : Nat) : Cursor × List Notice :=
  -- An oldest time above the cursor does not move it either: the source need not keep to it.
  if oldest < c.asOf then ({ c with asOf := oldest }, [])
  else
    ({ c with asOf := c.asOf - 1 },
      [.record (if pageSize ≤ fetched then fullSecond c.asOf fetched else steppedBack c.asOf)])

/-- What a run goes by: its cursor and counts, the medium it writes to and the state of the
source. -/
structure State (σ : Type) where
  cursor : Cursor
  stats : Stats
  medium : Medium
  source : σ

/-- What a step did: notices, the state it left, and the reason to stop if there is one. -/
structure Step (σ : Type) where
  notices : List Notice
  state : State σ
  reason : Option StopReason

/-- The entries of a page that a run keeps. With clipping, those at or below the bound are left
out. -/
def kept (clip : Bool) (lowerBound : Int) (entries : List Entry) : List Entry :=
  if clip then entries.filter (lowerBound < ·.time) else entries

/-- Writes the entries of a page that holds some, and moves the cursor. -/
def commit (pageSize : Nat) (clip : Bool) (s : State σ) (notices : List Notice)
    (first : Entry) (rest : List Entry) : Step σ :=
  let entries := first :: rest
  let keep := kept clip s.cursor.lowerBound entries
  -- What is clipped is counted before the write, also if the write fails.
  let clipped := s.stats.clipped + (entries.length - keep.length)
  match s.medium.write keep with
  | (.error f, medium) =>
    ⟨notices, { s with stats := { s.stats with clipped := clipped }, medium := medium },
      some (.storeFailed f.message)⟩
  | (.ok inserted, medium) =>
    let (cursor, passed) := s.cursor.pass (oldestTime first rest) entries.length pageSize
    let stats : Stats :=
      ⟨s.stats.pages + 1, s.stats.fetched + entries.length, s.stats.inserted + inserted, clipped⟩
    ⟨notices ++ passed ++ [.event (.pageCommitted entries.length inserted cursor.asOf)],
      { s with cursor := cursor, stats := stats, medium := medium }, none⟩

/-- **Step**: asks for one page, writes it and moves the cursor, or stops. -/
def step (source : Source σ) (clip : Bool) (s : State σ) : Step σ :=
  if s.cursor.isDone then ⟨[], s, some .boundReached⟩
  else
    let answer := source.fetch s.cursor.asOf s.source
    let s := { s with source := answer.next }
    let notices := answer.records.map .record
    match answer.reply with
    | .error f => ⟨notices, s, some (.sourceFailed f.message)⟩
    | .ok page =>
      match entriesOf page with
      | .error f => ⟨notices, s, some (.sourceFailed f.message)⟩
      | .ok [] => ⟨notices, s, some .exhausted⟩
      | .ok (first :: rest) => commit source.pageSize clip s notices first rest

theorem Cursor.pass_asOf_lt (c : Cursor) (oldest : Int) (fetched pageSize : Nat) :
    (c.pass oldest fetched pageSize).1.asOf < c.asOf := by
  unfold Cursor.pass
  split
  · assumption
  · exact Int.sub_lt_self _ (by decide)

theorem Cursor.pass_lowerBound (c : Cursor) (oldest : Int) (fetched pageSize : Nat) :
    (c.pass oldest fetched pageSize).1.lowerBound = c.lowerBound := by
  unfold Cursor.pass
  split <;> rfl

/-- A page that is written moves the cursor down and leaves the bound. -/
theorem commit_descends {pageSize : Nat} {clip : Bool} {s s' : State σ}
    {notices notices' : List Notice} {first : Entry} {rest : List Entry}
    (h : commit pageSize clip s notices first rest = ⟨notices', s', none⟩) :
    s'.cursor.asOf < s.cursor.asOf ∧ s'.cursor.lowerBound = s.cursor.lowerBound := by
  dsimp only [commit] at h
  split at h
  · simp at h
  · simp only [Step.mk.injEq] at h
    obtain ⟨-, rfl, -⟩ := h
    exact ⟨Cursor.pass_asOf_lt .., Cursor.pass_lowerBound ..⟩

/-- A step that does not stop moves the cursor down, from above the bound. -/
theorem step_descends {source : Source σ} {clip : Bool} {s s' : State σ}
    {notices : List Notice} (h : step source clip s = ⟨notices, s', none⟩) :
    s'.cursor.asOf < s.cursor.asOf ∧ s'.cursor.lowerBound = s.cursor.lowerBound ∧
      s.cursor.lowerBound < s.cursor.asOf := by
  unfold step at h
  split at h
  · simp at h
  · next hDone =>
    have hAbove : s.cursor.lowerBound < s.cursor.asOf := by
      simpa [Cursor.isDone] using hDone
    dsimp only at h
    split at h
    · simp at h
    · split at h
      · simp at h
      · simp at h
      · have hDown := commit_descends h
        exact ⟨hDown.1, hDown.2, hAbove⟩

/-- The course of a run: notices, the reason to stop and the state at the end. -/
structure Course (σ : Type) where
  notices : List Notice
  reason : StopReason
  state : State σ

/-- **Walk**: takes steps until one stops. -/
def walk (source : Source σ) (clip : Bool) (s : State σ) : Course σ :=
  match _hStep : step source clip s with
  | ⟨notices, s', some reason⟩ => ⟨notices, reason, s'⟩
  | ⟨notices, s', none⟩ =>
    let rest := walk source clip s'
    { rest with notices := notices ++ rest.notices }
termination_by (s.cursor.asOf - s.cursor.lowerBound).toNat
decreasing_by
  have hDown := step_descends _hStep
  omega

/-- A finished run: notices, the report, and what it left of the medium and the source. -/
structure Finished (σ : Type) where
  notices : List Notice
  report : Report
  medium : Medium
  source : σ

/-- **Run**: a walk from a cursor, with an event before it and one after it. -/
def run (source : Source σ) (clip : Bool) (start : Cursor) (medium : Medium) (state : σ) :
    Finished σ :=
  let course := walk source clip ⟨start, {}, medium, state⟩
  let cursor := course.state.cursor
  { notices := .event (.started start.asOf start.lowerBound) :: course.notices
      ++ [.event (.stopped course.reason cursor.asOf course.state.stats)]
    report := ⟨course.reason, cursor, course.state.stats⟩
    medium := course.state.medium
    source := course.state.source }

/-- **Starting time**: the oldest stored time, or else the given one, and what is reported. -/
def startTime (t : Table) (fallback : Int) : Int × Log.Record :=
  match t.earliest? with
  | some earliest =>
    (earliest, .info "resuming from earliest stored swap" [("start", toString earliest)])
  | none => (fallback, .info "store is empty, starting fresh" [("start", toString fallback)])

end SwapArchive.Fetch
