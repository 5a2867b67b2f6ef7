import SwapArchive.Fetch.Run
import SwapArchive.Proofs.Store.Writing

/-!
# The course of a run

Everything that a step of a run can do is said once, in the rules of `Stepped`. What holds along a
whole run follows from what one step preserves: a run ends in a state that it passes, with a step
that stops.
-/

namespace SwapArchive.Fetch

variable {σ : Type} {source : Source σ} {clip : Bool} {s s' t : State σ}

namespace Medium

variable {m : Medium} {entries : List Entry}

/-- A write that succeeds has written all that is new. -/
theorem write_ok {n : Nat} (h : (m.write entries).1 = .ok n) :
    n = (m.table.insertAll entries).2 ∧
      (m.write entries).2 =
        { m with writes := m.writes + 1, table := (m.table.insertAll entries).1 } := by
  unfold write at h ⊢
  generalize hWrite : m.table.write m.writing (m.fault m.writes) entries = written at h
  obtain ⟨_, table⟩ := written
  obtain rfl : _ = Except.ok n := h
  rw [← Table.write_eq_ok hWrite]
  exact ⟨rfl, rfl⟩

/-- A write that fails leaves the table as it was. -/
theorem write_error {f : Failure} (h : (m.write entries).1 = .error f) :
    (m.write entries).2 = { m with writes := m.writes + 1 } := by
  have hTable := Table.write_error h
  simp only [write, hTable]

/-- A medium that can be written, whose next write is not interrupted, takes every page. -/
theorem write_of_writable (hFault : m.fault m.writes = none)
    (hWriting : m.writing.obstacle? = none) :
    (m.write entries).1 = .ok (m.table.insertAll entries).2 := by
  simp only [write, hFault, Table.write_of_writable hWriting]

end Medium

/-- What the source answers at the cursor. -/
def State.ask (s : State σ) (source : Source σ) : Fetched σ := source.fetch s.cursor.asOf s.source

/-- The state after the source has been asked. -/
def State.asked (s : State σ) (source : Source σ) : State σ :=
  { s with source := (s.ask source).next }

/-- What the source reports when it is asked at the cursor. -/
def State.reports (s : State σ) (source : Source σ) : List Notice :=
  (s.ask source).records.map .record

/-- The number of entries of a page that are left out. -/
def State.clippedOf (s : State σ) (clip : Bool) (entries : List Entry) : Nat :=
  entries.length - (kept clip s.cursor.lowerBound entries).length

/-- The cursor after a page, and what is reported of it. -/
def State.passed (s : State σ) (source : Source σ) (first : Entry) (rest : List Entry) :
    Cursor × List Notice :=
  s.cursor.pass (oldestTime first rest) (first :: rest).length source.pageSize

/-- The state after a page could not be written. -/
def State.unwritten (s : State σ) (source : Source σ) (clip : Bool) (entries : List Entry) :
    State σ where
  cursor := s.cursor
  stats := { s.stats with clipped := s.stats.clipped + s.clippedOf clip entries }
  medium := (s.medium.write (kept clip s.cursor.lowerBound entries)).2
  source := (s.ask source).next

/-- The state after a page has been written. -/
def State.written (s : State σ) (source : Source σ) (clip : Bool) (first : Entry)
    (rest : List Entry) (inserted : Nat) : State σ where
  cursor := (s.passed source first rest).1
  stats :=
    { pages := s.stats.pages + 1
      fetched := s.stats.fetched + (first :: rest).length
      inserted := s.stats.inserted + inserted
      clipped := s.stats.clipped + s.clippedOf clip (first :: rest) }
  medium := (s.medium.write (kept clip s.cursor.lowerBound (first :: rest))).2
  source := (s.ask source).next

/-- **What a step can do**, one rule for each way in which it can end. -/
inductive Stepped (source : Source σ) (clip : Bool) (s : State σ) : Step σ → Prop
  | done (hDone : s.cursor.asOf ≤ s.cursor.lowerBound) :
    Stepped source clip s ⟨[], s, some .boundReached⟩
  | unanswered {f : Failure} (hAbove : s.cursor.lowerBound < s.cursor.asOf)
      (hReply : (s.ask source).reply = .error f) :
    Stepped source clip s ⟨s.reports source, s.asked source, some (.sourceFailed f.message)⟩
  | invalid {f : Failure} {page : List Swap} (hAbove : s.cursor.lowerBound < s.cursor.asOf)
      (hReply : (s.ask source).reply = .ok page) (hEntries : entriesOf page = .error f) :
    Stepped source clip s ⟨s.reports source, s.asked source, some (.sourceFailed f.message)⟩
  | exhausted {page : List Swap} (hAbove : s.cursor.lowerBound < s.cursor.asOf)
      (hReply : (s.ask source).reply = .ok page) (hEntries : entriesOf page = .ok []) :
    Stepped source clip s ⟨s.reports source, s.asked source, some .exhausted⟩
  | unwritten {f : Failure} {page : List Swap} {first : Entry} {rest : List Entry}
      (hAbove : s.cursor.lowerBound < s.cursor.asOf)
      (hReply : (s.ask source).reply = .ok page) (hEntries : entriesOf page = .ok (first :: rest))
      (hWrite : (s.medium.write (kept clip s.cursor.lowerBound (first :: rest))).1 = .error f) :
    Stepped source clip s
      ⟨s.reports source, s.unwritten source clip (first :: rest), some (.storeFailed f.message)⟩
  | written {page : List Swap} {first : Entry} {rest : List Entry} {inserted : Nat}
      (hAbove : s.cursor.lowerBound < s.cursor.asOf)
      (hReply : (s.ask source).reply = .ok page) (hEntries : entriesOf page = .ok (first :: rest))
      (hWrite : (s.medium.write (kept clip s.cursor.lowerBound (first :: rest))).1
        = .ok inserted) :
    Stepped source clip s
      ⟨s.reports source ++ (s.passed source first rest).2
          ++ [.event (.pageCommitted (first :: rest).length inserted
            (s.passed source first rest).1.asOf)],
        s.written source clip first rest inserted, none⟩

/-- A step ends in one of these ways. -/
theorem stepped (source : Source σ) (clip : Bool) (s : State σ) :
    Stepped source clip s (step source clip s) := by
  unfold step
  split
  · -- The splits follow the tests of `step` in their order: bound, reply, entries, write.
    next hDone => exact .done (by simpa [Cursor.isDone] using hDone)
  next hDone =>
  have hAbove : s.cursor.lowerBound < s.cursor.asOf := by simpa [Cursor.isDone] using hDone
  dsimp only
  split
  · next f hReply => exact .unanswered hAbove hReply
  next page hReply =>
  split
  · next f hEntries => exact .invalid hAbove hReply hEntries
  · next hEntries => exact .exhausted hAbove hReply hEntries
  next first rest hEntries =>
  dsimp only [commit]
  split
  · next f medium hWrite =>
    have hMedium : medium = (s.medium.write (kept clip s.cursor.lowerBound (first :: rest))).2 := by
      rw [hWrite]
    subst hMedium
    exact .unwritten hAbove hReply hEntries (by rw [hWrite])
  · next inserted medium hWrite =>
    have hMedium : medium = (s.medium.write (kept clip s.cursor.lowerBound (first :: rest))).2 := by
      rw [hWrite]
    subst hMedium
    exact .written hAbove hReply hEntries (by rw [hWrite])

/-- A step that does not stop has written a page. -/
theorem step_continues {notices : List Notice} (h : step source clip s = ⟨notices, s', none⟩) :
    ∃ page first rest inserted, s.cursor.lowerBound < s.cursor.asOf ∧
      (s.ask source).reply = .ok page ∧ entriesOf page = .ok (first :: rest) ∧
      (s.medium.write (kept clip s.cursor.lowerBound (first :: rest))).1 = .ok inserted ∧
      s' = s.written source clip first rest inserted := by
  have hStepped := stepped source clip s
  rw [h] at hStepped
  cases hStepped with
  | written hAbove hReply hEntries hWrite =>
    exact ⟨_, _, _, _, hAbove, hReply, hEntries, hWrite, rfl⟩

/-- What is kept of a page that has been written is stored. -/
theorem State.table_written (source : Source σ) {first : Entry} {rest : List Entry} {inserted : Nat}
    (hWrite : (s.medium.write (kept clip s.cursor.lowerBound (first :: rest))).1 = .ok inserted) :
    (s.written source clip first rest inserted).medium.table
      = (s.medium.table.insertAll (kept clip s.cursor.lowerBound (first :: rest))).1 := by
  rw [State.written, (Medium.write_ok hWrite).2]

/-- A step that stops leaves the cursor and the table. It stops at the bound if there is nothing
left above it, and only then. -/
theorem step_stop {notices : List Notice} {reason : StopReason}
    (h : step source clip s = ⟨notices, s', some reason⟩) :
    s'.cursor = s.cursor ∧ s'.medium.table = s.medium.table ∧
      (s.cursor.asOf ≤ s.cursor.lowerBound ↔ reason = .boundReached) := by
  have hStepped := stepped source clip s
  rw [h] at hStepped
  cases hStepped with
  | done hDone => exact ⟨rfl, rfl, by simp [hDone]⟩
  | unanswered hAbove => exact ⟨rfl, rfl, by simp [hAbove]⟩
  | invalid hAbove => exact ⟨rfl, rfl, by simp [hAbove]⟩
  | exhausted hAbove => exact ⟨rfl, rfl, by simp [hAbove]⟩
  | unwritten hAbove _ _ hWrite =>
    refine ⟨rfl, ?_, by simp [hAbove]⟩
    rw [State.unwritten, Medium.write_error hWrite]

/-- **The states that a run passes**: the first one, and those after each step that goes on. -/
inductive Passes (source : Source σ) (clip : Bool) : State σ → State σ → Prop
  | here {s : State σ} : Passes source clip s s
  | next {s s' t : State σ} {notices : List Notice}
      (hStep : step source clip s = ⟨notices, s', none⟩) (hRest : Passes source clip s' t) :
    Passes source clip s t

/-- What a step preserves holds of every state that a run passes. -/
theorem Passes.preserves {P : State σ → Prop} (h : Passes source clip s t)
    (hStep : ∀ {s s' : State σ} {notices : List Notice},
      P s → step source clip s = ⟨notices, s', none⟩ → P s')
    (hStart : P s) : P t := by
  induction h with
  | here => exact hStart
  | next hNext _ ih => exact ih (hStep hStart hNext)

/-- **A run stops** in a state that it has passed, by a step that tells the reason. -/
theorem walk_ends (source : Source σ) (clip : Bool) (s : State σ) :
    ∃ last notices, Passes source clip s last ∧
      step source clip last =
        ⟨notices, (walk source clip s).state, some (walk source clip s).reason⟩ := by
  fun_induction walk source clip s with
  | case1 s notices s' reason hStep => exact ⟨s, notices, .here, hStep⟩
  | case2 s notices s' hStep rest ih =>
    obtain ⟨last, lastNotices, hPasses, hLast⟩ := ih
    exact ⟨last, lastNotices, .next hStep hPasses, hLast⟩

/-- What every step preserves holds where a run stops. -/
theorem walk_preserves {P : State σ → Prop}
    (hNext : ∀ {s s' : State σ} {notices : List Notice},
      P s → step source clip s = ⟨notices, s', none⟩ → P s')
    (hStop : ∀ {s s' : State σ} {notices : List Notice} {reason : StopReason},
      P s → step source clip s = ⟨notices, s', some reason⟩ → P s')
    (hStart : P s) : P (walk source clip s).state := by
  obtain ⟨last, notices, hPasses, hLast⟩ := walk_ends source clip s
  exact hStop (hPasses.preserves hNext hStart) hLast

/-- **A run in which nothing fails**: wherever it asks, the source answers, and every page that it
writes is written. -/
structure Unfailing (source : Source σ) (clip : Bool) (s : State σ) : Prop where
  answers : ∀ {t}, Passes source clip s t → t.cursor.lowerBound < t.cursor.asOf →
    ∃ page, (t.ask source).reply = .ok page
  writes : ∀ {t message}, Passes source clip s t →
    (step source clip t).reason ≠ some (.storeFailed message)

/-- A step leaves a medium able to be written, and its plan of failures as it is. -/
theorem step_keeps_medium {notices : List Notice} (h : step source clip s = ⟨notices, s', none⟩) :
    s'.medium.fault = s.medium.fault ∧ s'.medium.writing = s.medium.writing := by
  obtain ⟨_, _, _, _, -, -, -, hWrite, rfl⟩ := step_continues h
  rw [State.written, (Medium.write_ok hWrite).2]
  exact ⟨rfl, rfl⟩

/-- Nothing fails if the source always answers and no write is going to fail. -/
theorem unfailing_of_ready
    (hAnswers : ∀ asOf state, ∃ page, (source.fetch asOf state).reply = .ok page)
    (hFault : ∀ number, s.medium.fault number = none)
    (hWriting : s.medium.writing.obstacle? = none) : Unfailing source clip s where
  answers _ _ := hAnswers _ _
  writes {t message} hPasses hReason := by
    have hMedium : t.medium.fault = s.medium.fault ∧ t.medium.writing = s.medium.writing := by
      refine hPasses.preserves (P := fun u => u.medium.fault = s.medium.fault ∧
        u.medium.writing = s.medium.writing) (fun hKept hStep => ?_) ⟨rfl, rfl⟩
      obtain ⟨hSameFault, hSameWriting⟩ := step_keeps_medium hStep
      exact ⟨hSameFault.trans hKept.1, hSameWriting.trans hKept.2⟩
    have hStepped := stepped source clip t
    generalize step source clip t = result at hStepped hReason
    cases hStepped with
    | unwritten hAbove hReply hEntries hWrite =>
      rw [Medium.write_of_writable (by rw [hMedium.1]; exact hFault _)
        (by rw [hMedium.2]; exact hWriting)] at hWrite
      cases hWrite
    | _ => cases hReason

end SwapArchive.Fetch
