import Mathlib.Data.Int.Interval
import SwapArchive.Proofs.Fetch.Pages

/-!
# The turns of a run

A run goes in turns. In each of them it asks the source, writes the page that comes back, and tells
of the page; the cursor that it tells is the time it asks for next. Nothing is assumed of the source
here: its pages may be of any length, in any order and of any time.
-/

namespace SwapArchive.Fetch

variable {σ : Type} {source : Source σ} {clip : Bool} {s s' t : State σ} {notices : List Notice}
  {reason : StopReason}

/-- A turn: the time asked for, the page that was answered and has been written, the number of rows
that it added, and the cursor after it. -/
structure Turn where
  asked : Int
  page : List Swap
  inserted : Nat
  cursor : Int

def Turn.event (t : Turn) : Event := .pageCommitted t.page.length t.inserted t.cursor

/-- The turn from one state to the next. -/
def State.turn (s : State σ) (source : Source σ) (s' : State σ) : Turn where
  asked := s.cursor.asOf
  page := (s.ask source).reply.toOption.getD []
  inserted := s'.medium.table.count - s.medium.table.count
  cursor := s'.cursor.asOf

/-- **Turns** of a run: one for each step that goes on. -/
def turns (source : Source σ) (clip : Bool) (s : State σ) : List Turn :=
  match _hStep : step source clip s with
  | ⟨_, _, some _⟩ => []
  | ⟨_, s', none⟩ => s.turn source s' :: turns source clip s'
termination_by (s.cursor.asOf - s.cursor.lowerBound).toNat
decreasing_by
  have hDown := step_descends _hStep
  omega

/-- **Questions** of a run: that of each turn, and a last one that no page is written for, unless
the run ends at its bound. -/
def questions (source : Source σ) (clip : Bool) (s : State σ) : List Int :=
  (turns source clip s).map Turn.asked ++
    if (walk source clip s).reason = .boundReached then []
    else [(walk source clip s).state.cursor.asOf]

theorem turns_of_stop (h : step source clip s = ⟨notices, s', some reason⟩) :
    turns source clip s = [] := by
  rw [turns]
  split <;> simp_all

theorem turns_of_next (h : step source clip s = ⟨notices, s', none⟩) :
    turns source clip s = s.turn source s' :: turns source clip s' := by
  rw [turns]
  split <;> simp_all

theorem walk_of_stop (h : step source clip s = ⟨notices, s', some reason⟩) :
    walk source clip s = ⟨notices, reason, s'⟩ := by
  rw [walk]
  split <;> simp_all

theorem walk_of_next (h : step source clip s = ⟨notices, s', none⟩) :
    walk source clip s = { walk source clip s' with
      notices := notices ++ (walk source clip s').notices } := by
  rw [walk]
  split <;> simp_all

/-- **Induction along the turns**: what holds of no turn, and goes on from the rest of the turns to
all of them, holds of the turns of a run and the state in which it stops. -/
theorem turns_end (source : Source σ) (clip : Bool) {P : State σ → List Turn → State σ → Prop}
    (hNone : ∀ s, P s [] s)
    (hNext : ∀ {s s' t : State σ} {notices : List Notice} {turns : List Turn},
      step source clip s = ⟨notices, s', none⟩ → P s' turns t → P s (s.turn source s' :: turns) t)
    (s : State σ) :
    ∃ last notices, P s (turns source clip s) last ∧
      step source clip last =
        ⟨notices, (walk source clip s).state, some (walk source clip s).reason⟩ := by
  fun_induction walk source clip s with
  | case1 s notices s' reason hStep =>
    rw [turns_of_stop hStep]
    exact ⟨s, notices, hNone s, hStep⟩
  | case2 s notices s' hStep rest ih =>
    obtain ⟨last, lastNotices, hRest, hLast⟩ := ih
    rw [turns_of_next hStep]
    exact ⟨last, lastNotices, hNext hStep hRest, hLast⟩

/-- **What happens in a turn**: the page answered is one of valid swaps, it is written, and it is
told of. -/
theorem step_turn (h : step source clip s = ⟨notices, s', none⟩) :
    ∃ first rest, s.cursor.lowerBound < s.cursor.asOf ∧
      (s.ask source).reply = .ok (s.turn source s').page ∧
      (∀ x ∈ (s.turn source s').page, x.validate = .ok ()) ∧
      (s.turn source s').page.map Swap.entry = first :: rest ∧
      (s.medium.write (kept clip s.cursor.lowerBound (first :: rest))).1
        = .ok (s.turn source s').inserted ∧
      s' = s.written source clip first rest (s.turn source s').inserted ∧
      notices = s.reports source ++ (s.passed source first rest).2
        ++ [.event (s.turn source s').event] := by
  have hStepped := stepped source clip s
  rw [h] at hStepped
  cases hStepped with
  | @written page first rest inserted hAbove hReply hEntries hWrite =>
    obtain ⟨hValid, hPage⟩ := entriesOf_eq_ok hEntries
    obtain ⟨hInserted, hMedium⟩ := Medium.write_ok hWrite
    have hCount : (s.written source clip first rest inserted).medium.table.count
        = s.medium.table.count + inserted := by
      rw [State.written, hMedium, hInserted]
      exact Table.count_insertAll
    have hTurn : s.turn source (s.written source clip first rest inserted)
        = ⟨s.cursor.asOf, page, inserted, (s.passed source first rest).1.asOf⟩ := by
      rw [State.turn, hReply, hCount, Nat.add_sub_cancel_left]
      rfl
    have hLength : (first :: rest).length = page.length := by rw [hPage, List.length_map]
    rw [hTurn]
    refine ⟨first, rest, hAbove, hReply, hValid, hPage.symm, hWrite, rfl, ?_⟩
    rw [Turn.event, ← hLength]

theorem eventsOf_reports (source : Source σ) (s : State σ) :
    eventsOf (s.reports source) = [] := by
  simp [eventsOf, State.reports, Notice.event?]

theorem eventsOf_stop (h : step source clip s = ⟨notices, s', some reason⟩) :
    eventsOf notices = [] := by
  have hStepped := stepped source clip s
  rw [h] at hStepped
  cases hStepped with
  | done => rfl
  | _ => exact eventsOf_reports source s

theorem eventsOf_turn (h : step source clip s = ⟨notices, s', none⟩) :
    eventsOf notices = [(s.turn source s').event] := by
  obtain ⟨first, rest, -, -, -, -, -, -, rfl⟩ := step_turn h
  have hPassed : eventsOf (s.passed source first rest).2 = [] := by
    unfold State.passed Cursor.pass
    split <;> rfl
  rw [eventsOf, List.filterMap_append, List.filterMap_append]
  show eventsOf _ ++ eventsOf _ ++ [_] = _
  rw [hPassed, eventsOf_reports]
  rfl

/-- **The events of a run** are those of its turns. -/
theorem eventsOf_walk (source : Source σ) (clip : Bool) (s : State σ) :
    eventsOf (walk source clip s).notices = (turns source clip s).map Turn.event := by
  fun_induction walk source clip s with
  | case1 s notices s' reason hStep => rw [turns_of_stop hStep, eventsOf_stop hStep, List.map_nil]
  | case2 s notices s' hStep rest ih =>
    rw [turns_of_next hStep, List.map_cons, ← ih, ← List.singleton_append, ← eventsOf_turn hStep]
    exact List.filterMap_append

theorem eventsOf_run (source : Source σ) (clip : Bool) (start : Cursor) (medium : Medium)
    (state : σ) :
    let finished := run source clip start medium state
    eventsOf finished.notices = .started start.asOf start.lowerBound
      :: (turns source clip ⟨start, {}, medium, state⟩).map Turn.event
      ++ [.stopped finished.report.reason finished.report.cursor.asOf finished.report.stats] := by
  intro finished
  show eventsOf (_ :: (walk source clip _).notices ++ [_]) = _
  rw [eventsOf, List.filterMap_append, List.filterMap_cons, ← eventsOf_walk]
  rfl

/-- **Descending** turns: each of them asks above the bound, for the time that the turn before it
has told, and tells an earlier one. -/
structure Descending (s : State σ) (turns : List Turn) (t : State σ) : Prop where
  lowerBound : t.cursor.lowerBound = s.cursor.lowerBound
  chained : turns.map Turn.asked ++ [t.cursor.asOf] = s.cursor.asOf :: turns.map Turn.cursor
  decreasing : (s.cursor.asOf :: turns.map Turn.cursor).Pairwise (· > ·)
  above : ∀ turn ∈ turns, s.cursor.lowerBound < turn.asked

theorem Descending.nil (s : State σ) : Descending s [] s := ⟨rfl, rfl, by simp, by simp⟩

theorem Descending.cons {turns : List Turn} (hStep : step source clip s = ⟨notices, s', none⟩)
    (h : Descending s' turns t) : Descending s (s.turn source s' :: turns) t := by
  obtain ⟨hDown, hBound, hAbove⟩ := step_descends hStep
  have hDecreasing := h.decreasing
  rw [List.pairwise_cons] at hDecreasing
  refine ⟨h.lowerBound.trans hBound, congrArg _ h.chained, ?_, ?_⟩
  · refine List.pairwise_cons.2 ⟨fun time hTime => ?_, h.decreasing⟩
    rcases List.mem_cons.1 hTime with rfl | hLater
    · exact hDown
    · exact Int.lt_trans (hDecreasing.1 time hLater) hDown
  · exact List.forall_mem_cons.2 ⟨hAbove, hBound ▸ h.above⟩

/-- **The turns of a run descend** to where it stops. -/
theorem descending_walk (source : Source σ) (clip : Bool) (s : State σ) :
    Descending s (turns source clip s) (walk source clip s).state := by
  obtain ⟨last, notices, hTurns, hLast⟩ := turns_end source clip (P := Descending) .nil .cons s
  have hCursor := (step_stop hLast).1
  exact ⟨by rw [hCursor]; exact hTurns.lowerBound, by rw [hCursor]; exact hTurns.chained,
    hTurns.decreasing, hTurns.above⟩

/-- A run ends below its bound exactly if that is the reason. -/
theorem boundReached_iff (source : Source σ) (clip : Bool) (s : State σ) :
    (walk source clip s).state.cursor.asOf ≤ s.cursor.lowerBound ↔
      (walk source clip s).reason = .boundReached := by
  obtain ⟨last, notices, -, hLast⟩ := walk_ends source clip s
  obtain ⟨hCursor, -, hReason⟩ := step_stop hLast
  rw [← (descending_walk source clip s).lowerBound, hCursor]
  exact hReason

/-- The questions of a run are its cursors, without the last one if that is at the bound. -/
theorem questions_sublist (source : Source σ) (clip : Bool) (s : State σ) :
    (questions source clip s).Sublist (s.cursor.asOf :: (turns source clip s).map Turn.cursor) := by
  rw [questions, ← (descending_walk source clip s).chained]
  apply List.Sublist.append_left
  split
  · exact List.nil_sublist _
  · exact List.Sublist.refl _

theorem questions_decrease (source : Source σ) (clip : Bool) (s : State σ) :
    (questions source clip s).Pairwise (· > ·) :=
  (descending_walk source clip s).decreasing.sublist (questions_sublist source clip s)

theorem questions_span {time : Int} (h : time ∈ questions source clip s) :
    s.cursor.lowerBound < time ∧ time ≤ s.cursor.asOf := by
  have hTurns := descending_walk source clip s
  constructor
  · rw [questions, List.mem_append] at h
    rcases h with hTurn | hOpen
    · obtain ⟨turn, hMem, rfl⟩ := List.mem_map.1 hTurn
      exact hTurns.above turn hMem
    · split at hOpen
      · cases hOpen
      · next hGoesOn =>
        rw [List.mem_singleton.1 hOpen]
        exact Int.not_le.1 (mt (boundReached_iff source clip s).1 hGoesOn)
  · rcases List.mem_cons.1 ((questions_sublist source clip s).subset h) with rfl | hLater
    · exact Int.le_refl _
    · exact Int.le_of_lt ((List.pairwise_cons.1 hTurns.decreasing).1 time hLater)

theorem length_le_of_decreasing {times : List Int} {bound top : Int}
    (hDecreasing : times.Pairwise (· > ·)) (hSpan : ∀ time ∈ times, bound < time ∧ time ≤ top) :
    times.length ≤ (top - bound).toNat := by
  have hNodup : times.Nodup := hDecreasing.imp fun h => Int.ne_of_gt h
  have hSubset : times.toFinset ⊆ Finset.Ioc bound top := fun time hTime =>
    Finset.mem_Ioc.2 (hSpan time (List.mem_toFinset.1 hTime))
  calc times.length = times.toFinset.card := (List.toFinset_card_of_nodup hNodup).symm
    _ ≤ (Finset.Ioc bound top).card := Finset.card_le_card hSubset
    _ = (top - bound).toNat := Int.card_Ioc bound top

theorem toInt_sub_one {top bound : Int64} {time : Int} (hAbove : bound.toInt < time)
    (hUpTo : time ≤ top.toInt) : (Int64.ofInt time - 1).toInt = time - 1 := by
  have hLeast := Int64.minValue_le_toInt bound
  have hGreatest := Int64.toInt_le top
  rw [Int64.toInt_minValue] at hLeast
  rw [Int64.toInt_maxValue] at hGreatest
  rw [Int64.toInt_sub, Int64.toInt_ofInt, Int64.toInt_one]
  rw [Int.bmod_eq_of_le (n := time)]
  · rw [Int.bmod_eq_of_le] <;> omega
  · show -((2 ^ 64 : Nat) / 2 : Int) ≤ time
    omega
  · show time < ((2 ^ 64 : Nat) + 1) / 2
    omega

/-- A run asks once more before it stops, unless it is at its bound. -/
theorem questions_of_stop (h : step source clip s = ⟨notices, s', some reason⟩) :
    questions source clip s = if s.cursor.isDone then [] else [s.cursor.asOf] := by
  obtain ⟨hCursor, -, hReason⟩ := step_stop h
  rw [questions, turns_of_stop h, walk_of_stop h]
  by_cases hDone : s.cursor.asOf ≤ s.cursor.lowerBound
  · simp [Cursor.isDone, hDone, hReason.1 hDone]
  · have hGoesOn : reason ≠ .boundReached := mt hReason.2 hDone
    simp [Cursor.isDone, hDone, hGoesOn, hCursor]

theorem questions_of_next (h : step source clip s = ⟨notices, s', none⟩) :
    questions source clip s = s.cursor.asOf :: questions source clip s' := by
  rw [questions, turns_of_next h, walk_of_next h]
  rfl

/-- The state of a run whose source keeps its questions. -/
def State.recording (s : State σ) (asked : List Int) : State (List Int × σ) :=
  ⟨s.cursor, s.stats, s.medium, (asked, s.source)⟩

theorem step_recorded (source : Source σ) (clip : Bool) (s : State σ) (asked : List Int) :
    step source.recorded clip (s.recording asked) =
      ⟨(step source clip s).notices,
        (step source clip s).state.recording
          (if s.cursor.isDone then asked else s.cursor.asOf :: asked),
        (step source clip s).reason⟩ := by
  unfold step
  by_cases hDone : s.cursor.isDone
  · simp [hDone, State.recording]
  · simp only [hDone, State.recording, Source.recorded]
    simp only [Bool.false_eq_true, if_false]
    split
    · rfl
    · split
      · rfl
      · rfl
      · dsimp only [commit]
        split <;> rfl

theorem walk_recorded (source : Source σ) (clip : Bool) (s : State σ) (asked : List Int) :
    walk source.recorded clip (s.recording asked) =
      { walk source clip s with
        state := (walk source clip s).state.recording
          ((questions source clip s).reverse ++ asked) } := by
  fun_induction walk source clip s generalizing asked with
  | case1 s notices s' reason hStep =>
    have hRecorded := step_recorded source clip s asked
    rw [hStep] at hRecorded
    rw [walk_of_stop hRecorded, questions_of_stop hStep]
    split
    · rfl
    · rfl
  | case2 s notices s' hStep rest ih =>
    have hAbove := (step_descends hStep).2.2
    have hRecorded := step_recorded source clip s asked
    rw [hStep, Cursor.isDone, decide_eq_false (Int.not_le.2 hAbove)] at hRecorded
    rw [walk_of_next hRecorded, questions_of_next hStep, List.reverse_cons, List.append_assoc]
    simp [ih, rest]

theorem run_recorded (source : Source σ) (clip : Bool) (start : Cursor) (medium : Medium)
    (state : σ) : (run source.recorded clip start medium ([], state)).source.1.reverse
      = questions source clip ⟨start, {}, medium, state⟩ := by
  have hWalk := walk_recorded source clip ⟨start, {}, medium, state⟩ []
  show (walk source.recorded clip _).state.source.1.reverse = _
  rw [State.recording] at hWalk
  rw [hWalk]
  simp [State.recording]

/-- **A run against any source.** Whatever pages a source answers with, in whatever order, and
wherever it or the medium fails, a run tells of its start, of each of its turns and of its end. Each
turn asks for the time that the turn before it has told, the first for the start, and the run ends
below its bound exactly if it reaches that. The times asked for decrease, and all lie above the
bound; there are no more of them than seconds in the span, and one second can be taken from each
within 64 bits. -/
theorem run_descends (source : Source σ) (clip : Bool) (top bound : Int64) (medium : Medium)
    (state : σ) :
    let start : Cursor := ⟨top.toInt, bound.toInt⟩
    let finished := run source clip start medium state
    let report := finished.report
    let turns := turns source clip ⟨start, {}, medium, state⟩
    let asked := (run source.recorded clip start medium ([], state)).source.1.reverse
    eventsOf finished.notices = .started start.asOf start.lowerBound :: turns.map Turn.event
        ++ [.stopped report.reason report.cursor.asOf report.stats] ∧
      asked = turns.map Turn.asked
        ++ (if report.reason = .boundReached then [] else [report.cursor.asOf]) ∧
      turns.map Turn.asked ++ [report.cursor.asOf] = start.asOf :: turns.map Turn.cursor ∧
      asked.Pairwise (· > ·) ∧
      (∀ time ∈ asked, start.lowerBound < time ∧ time ≤ start.asOf ∧
        (Int64.ofInt time - 1).toInt = time - 1) ∧
      asked.length ≤ (start.asOf - start.lowerBound).toNat ∧
      (report.cursor.asOf ≤ start.lowerBound ↔ report.reason = .boundReached) := by
  intro start finished report turns asked
  let first : State σ := ⟨start, {}, medium, state⟩
  have hAsked : asked = questions source clip first := run_recorded source clip start medium state
  have hDecreasing : asked.Pairwise (· > ·) := by
    rw [hAsked]
    exact questions_decrease source clip first
  -- Above the lower bound, which is a word, one less is a word too.
  have hSpan : ∀ time ∈ asked, start.lowerBound < time ∧ time ≤ start.asOf := by
    intro time hTime
    rw [hAsked] at hTime
    exact questions_span hTime
  refine ⟨eventsOf_run .., hAsked, (descending_walk source clip first).chained, hDecreasing,
    fun time hTime => ?_, length_le_of_decreasing hDecreasing hSpan,
    boundReached_iff source clip first⟩
  obtain ⟨hAbove, hUpTo⟩ := hSpan time hTime
  exact ⟨hAbove, hUpTo, toInt_sub_one hAbove hUpTo⟩

end SwapArchive.Fetch
