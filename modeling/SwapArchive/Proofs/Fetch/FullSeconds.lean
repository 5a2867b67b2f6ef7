import SwapArchive.Proofs.Fetch.Span
import SwapArchive.Proofs.Fetch.Turns
import SwapArchive.Proofs.Text.Integer

/-!
# Seconds that fill a page

A second may have more swaps than a page. The source can then be asked for the first of them only,
and the others are lost. This never goes unnoticed: a run comes to every second that fills a page by
itself, whatever pages it has seen before, and warns of it once.
-/

namespace SwapArchive

namespace Text

theorem toString_int_injective {m n : Int} (h : toString m = toString n) : m = n := by
  let range : IntegerRange := ⟨-(m.natAbs + n.natAbs), m.natAbs + n.natAbs⟩
  have hLeast : range.least ≤ 0 := by
    show -(m.natAbs + n.natAbs : Int) ≤ 0
    omega
  have hGreatest : 0 ≤ range.greatest := by
    show 0 ≤ (m.natAbs + n.natAbs : Int)
    omega
  have hRead {k : Int} (hk : k = m ∨ k = n) : readInteger range (toString k) = .ok k := by
    refine readInteger_toString ?_ hLeast hGreatest
    simp only [IntegerRange.contains, range, Bool.and_eq_true, decide_eq_true_eq]
    omega
  have hSame := hRead (.inl rfl)
  rw [h, hRead (.inr rfl)] at hSame
  exact (Except.ok.inj hSame).symm

end Text

namespace Fetch

variable {σ : Type} {source : Source σ} {clip : Bool} {s s' : State σ} {history : List Swap}
  {start : Cursor} {notices : List Notice} {reason : StopReason} {pageSize : Nat} {second : Int}

/-- Whether a notice warns that a second fills a page by itself. -/
def Notice.warnsOf (second : Int) : Notice → Bool
  | .record r =>
    r.message == (fullSecond second 0).message && r.fields.head? == some ("second", toString second)
  | .event _ => false

/-- A source whose own reports cannot be taken for the warning of a full second. -/
def Quiet (source : Source σ) : Prop :=
  ∀ asOf state, ∀ r ∈ (source.fetch asOf state).records, ∀ second,
    (Notice.record r).warnsOf second = false

theorem warnsOf_fullSecond (second other : Int) (fetched : Nat) :
    (Notice.record (fullSecond other fetched)).warnsOf second = decide (second = other) := by
  rw [Bool.eq_iff_iff, decide_eq_true_iff]
  constructor
  · intro h
    simp only [Notice.warnsOf, fullSecond, Log.Record.warn, Bool.and_eq_true, List.head?_cons,
      beq_iff_eq, Option.some.injEq, Prod.mk.injEq] at h
    exact (Text.toString_int_injective h.2.2).symm
  · rintro rfl
    simp [Notice.warnsOf, fullSecond, Log.Record.warn]

theorem warnsOf_steppedBack (second other : Int) :
    (Notice.record (steppedBack other)).warnsOf second = false := by
  have hOther : (steppedBack other).message ≠ (fullSecond second 0).message := by
    simp [steppedBack, fullSecond, Log.Record.debug, Log.Record.warn]
  rw [Notice.warnsOf, beq_false_of_ne hOther, Bool.false_and]

/-- A page holds a swap exactly if it has room for those that come before it. -/
theorem mem_pageOf_iff {before after : List Swap} {x : Swap} {asOf : Int} (hNew : x ∉ before)
    (hUpTo : x.timestamp ≤ asOf) :
    x ∈ pageOf (before ++ x :: after) pageSize asOf ↔
      before.countP (·.timestamp ≤ asOf) < pageSize := by
  have hOutside : x ∉ (before.filter (·.timestamp ≤ asOf)).take pageSize :=
    fun hx => hNew (List.mem_filter.1 (List.mem_of_mem_take hx)).1
  rw [pageOf, List.filter_append, List.filter_cons_of_pos (by simpa using hUpTo), List.take_append,
    List.mem_append, or_iff_right hOutside, List.countP_eq_length_filter]
  cases hRoom : pageSize - (before.filter (·.timestamp ≤ asOf)).length with
  | zero =>
    simp only [List.take_zero, List.not_mem_nil, false_iff]
    omega
  | succ n =>
    simp only [List.take_succ_cons, List.mem_cons, true_or, true_iff]
    omega

section Page

variable {first : Entry} {rest : List Entry} {c : Cursor} (hOrder : NewestFirst history)
  (hPage : (pageOf history pageSize c.asOf).map Swap.entry = first :: rest)

include hOrder

/-- What a page has from a second on is a front part of what the history has. -/
theorem page_from_second (pageSize : Nat) (second asOf : Int) :
    (pageOf history pageSize asOf).filter (second - 1 < ·.timestamp)
      = (spanOf history (second - 1) asOf).take pageSize := by
  rw [page_above_bound pageSize (second - 1) hOrder (Int.le_refl asOf)]
  congr 1
  exact List.filter_eq_self.2 fun x hx => decide_eq_true (mem_spanOf.1 hx).2.2

include hPage

/-- **A full page leaves the cursor where it is exactly on a full second.** -/
theorem stays_iff_full : (¬ oldestTime first rest < c.asOf ∧ pageSize ≤ (first :: rest).length) ↔
    pageSize ≤ history.countP (·.timestamp = c.asOf) := by
  have hLength : (first :: rest).length = (pageOf history pageSize c.asOf).length := by
    rw [← hPage, List.length_map]
  have hSecond : spanOf history (c.asOf - 1) c.asOf = history.filter (·.timestamp = c.asOf) := by
    refine List.filter_congr fun x _ => ?_
    rw [decide_eq_decide]
    omega
  have hFront := page_from_second hOrder pageSize c.asOf c.asOf
  rw [hSecond] at hFront
  rw [hLength, List.countP_eq_length_filter]
  constructor
  · rintro ⟨hStays, hFull⟩
    -- All swaps of the page are of this second.
    have hAll : ∀ x ∈ pageOf history pageSize c.asOf, c.asOf - 1 < x.timestamp := by
      intro x hx
      have hOldest := oldestTime_le_timestamp hPage hx
      omega
    rw [List.filter_eq_self.2 fun x hx => decide_eq_true (hAll x hx)] at hFront
    rw [hFront, List.length_take] at hFull
    omega
  · intro hFull
    have hShort := length_pageOf_le history pageSize c.asOf
    have hTaken := congrArg List.length hFront
    rw [List.length_take, Nat.min_eq_left hFull] at hTaken
    have hLe := List.length_filter_le (c.asOf - 1 < ·.timestamp) (pageOf history pageSize c.asOf)
    refine ⟨fun hMoves => ?_, by omega⟩
    have hSame : ((pageOf history pageSize c.asOf).filter (c.asOf - 1 < ·.timestamp)).length
        = (pageOf history pageSize c.asOf).length := by omega
    have hAll := List.length_filter_eq_length_iff.1 hSame
    obtain ⟨x, hx, hOldest⟩ := exists_oldest hPage
    have hLate := of_decide_eq_true (hAll x hx)
    omega

/-- **A second that the cursor jumps over is not full.** -/
theorem count_lt_of_passed (hBelow : second < c.asOf)
    (hPassed : (c.pass (oldestTime first rest) (first :: rest).length pageSize).1.asOf < second) :
    history.countP (·.timestamp = second) < pageSize := by
  rw [Cursor.pass_asOf] at hPassed
  split at hPassed
  · -- The page reaches below the second, and has no room for it alone.
    obtain ⟨y, hy, hOldest⟩ := exists_oldest hPage
    have hLess : ((pageOf history pageSize c.asOf).filter (second - 1 < ·.timestamp)).length
        < (pageOf history pageSize c.asOf).length :=
      List.length_filter_lt_length_iff_exists.2 ⟨y, hy, by simp; omega⟩
    have hShort := length_pageOf_le history pageSize c.asOf
    rw [page_from_second hOrder, List.length_take] at hLess
    have hCount : history.countP (·.timestamp = second)
        ≤ (spanOf history (second - 1) c.asOf).length := by
      rw [spanOf, ← List.countP_eq_length_filter]
      refine List.countP_mono_left fun x _ hx => decide_eq_true ?_
      have hx := of_decide_eq_true hx
      omega
    omega
  · omega

/-- A swap that the cursor passes over is on the page, if fewer swaps of its second than fit on a
page come before it. -/
theorem mem_pageOf_of_passed {before after : List Swap} {x : Swap} (hNew : x ∉ before)
    (hSplit : history = before ++ x :: after) (hUpTo : x.timestamp ≤ c.asOf)
    (hPassed : (c.pass (oldestTime first rest) (first :: rest).length pageSize).1.asOf
      < x.timestamp)
    (hFew : before.countP (·.timestamp = x.timestamp) < pageSize) :
    x ∈ pageOf history pageSize c.asOf := by
  rw [Cursor.pass_asOf] at hPassed
  split at hPassed
  · obtain ⟨y, hy, hOldest⟩ := exists_oldest hPage
    exact (hOrder.isNewestPage pageSize c.asOf).mem_of_oldest_lt hy (by simp [hSplit]) hUpTo
      (by omega)
  · -- The swap is of the second asked for, of which all that comes before it is.
    subst hSplit
    refine (mem_pageOf_iff hNew hUpTo).2 (Nat.lt_of_le_of_lt ?_ hFew)
    refine List.countP_mono_left fun y hy hEarly => decide_eq_true ?_
    have hNewer : x.timestamp ≤ y.timestamp :=
      (List.pairwise_append.1 hOrder).2.2 y hy x List.mem_cons_self
    have hEarly := of_decide_eq_true hEarly
    omega

end Page

theorem not_mem_before {before after : List Swap} {x : Swap}
    (hIds : ((before ++ x :: after).map (·.id)).Nodup) : x ∉ before := by
  intro hx
  rw [List.map_append, List.nodup_append] at hIds
  exact hIds.2.2 _ (List.mem_map_of_mem hx) _ List.mem_cons_self rfl

/-- What is on a page has fewer swaps of its second before it than fit on a page. -/
theorem countP_lt_of_mem_pageOf {before after : List Swap} {x : Swap} {asOf : Int}
    (hSplit : history = before ++ x :: after) (hIds : (history.map (·.id)).Nodup)
    (hx : x ∈ pageOf history pageSize asOf) :
    before.countP (·.timestamp = x.timestamp) < pageSize := by
  have hUpTo := (mem_pageOf hx).2
  subst hSplit
  refine Nat.lt_of_le_of_lt ?_ ((mem_pageOf_iff (not_mem_before hIds) hUpTo).1 hx)
  refine List.countP_mono_left fun y _ hSame => decide_eq_true ?_
  have hSame := of_decide_eq_true hSame
  omega

/-- **Admitted**: of every second above the cursor the first swaps are stored, as many as fit on a
page, and no others are. -/
structure Admitted (history : List Swap) (pageSize : Nat) (start : Cursor) (s : State σ) :
    Prop where
  lowerBound : s.cursor.lowerBound = start.lowerBound
  isOf : s.medium.table.IsOf history
  few : ∀ {before x after}, history = before ++ x :: after →
    s.medium.table.contains x.id = true → before.countP (·.timestamp = x.timestamp) < pageSize
  stored : ∀ {before x after}, history = before ++ x :: after → start.lowerBound < x.timestamp →
    s.cursor.asOf < x.timestamp → x.timestamp ≤ start.asOf →
    before.countP (·.timestamp = x.timestamp) < pageSize → s.medium.table.contains x.id = true

theorem Admitted.initial {medium : Medium} {state : σ} (hEmpty : medium.table = .empty) :
    Admitted history pageSize start (⟨start, {}, medium, state⟩ : State σ) where
  lowerBound := rfl
  isOf := hEmpty ▸ Table.isOf_empty
  few _ hContains := by
    rw [hEmpty, Table.contains_empty] at hContains
    cases hContains
  stored _ _ hAbove hUpTo := absurd hAbove (Int.not_lt.2 hUpTo)

/-- **A step keeps this.** -/
theorem Admitted.step (hServes : source.ServesInOrder history) (hOrder : NewestFirst history)
    (hIds : (history.map (·.id)).Nodup) (h : Admitted history source.pageSize start s)
    (hStep : Fetch.step source clip s = ⟨notices, s', none⟩) :
    Admitted history source.pageSize start s' := by
  obtain ⟨page, first, rest, inserted, hAbove, hReply, hEntries, hWrite, rfl⟩ :=
    step_continues hStep
  obtain rfl := hServes _ _ _ hReply
  have hPage := (entriesOf_eq_ok hEntries).2.symm
  have hTable := State.table_written source hWrite
  have hKept : ∀ e ∈ kept clip s.cursor.lowerBound (first :: rest),
      ∃ x ∈ pageOf history source.pageSize s.cursor.asOf, x.entry = e := by
    intro e he
    have hMem := (mem_kept.1 he).1
    rwa [← hPage, List.mem_map] at hMem
  refine ⟨?_, ?_, ?_, ?_⟩
  · exact (Cursor.pass_lowerBound ..).trans h.lowerBound
  · rw [hTable]
    refine h.isOf.insertAll fun e he => ?_
    obtain ⟨x, hx, hEntry⟩ := hKept e he
    exact ⟨x, (mem_pageOf hx).1, hEntry⟩
  · -- A stored swap was on some page, and a page has fewer than its size before any of its swaps.
    intro before x after hSplit hContains
    rw [hTable, Table.contains_insertAll] at hContains
    rcases hContains with hOld | ⟨e, he, hKey⟩
    · exact h.few hSplit hOld
    · obtain ⟨y, hy, rfl⟩ := hKept e he
      have hSame : y.id = x.id := hKey
      obtain rfl := List.inj_on_of_nodup_map hIds (mem_pageOf hy).1 (by simp [hSplit]) hSame
      exact countP_lt_of_mem_pageOf hSplit hIds hy
  · -- What the cursor passes over, with less than a page before it, is on the page.
    intro before x after hSplit hBound hPassed hUpTo hFew
    by_cases hBefore : s.cursor.asOf < x.timestamp
    · rw [hTable, Table.contains_insertAll]
      exact .inl (h.stored hSplit hBound hBefore hUpTo hFew)
    · have hNew : x ∉ before := not_mem_before (hSplit ▸ hIds)
      have hMem := mem_pageOf_of_passed hOrder hPage hNew hSplit (Int.not_lt.1 hBefore) hPassed hFew
      rw [hTable, Table.contains_insertAll]
      refine .inr ⟨x.entry, mem_kept.2 ⟨hPage ▸ List.mem_map_of_mem hMem, fun _ => ?_⟩, rfl⟩
      rwa [h.lowerBound]

theorem Admitted.stop (h : Admitted history pageSize start s)
    (hStep : Fetch.step source clip s = ⟨notices, s', some reason⟩) :
    Admitted history pageSize start s' := by
  obtain ⟨hCursor, hTable, -⟩ := step_stop hStep
  obtain ⟨hBound, hIsOf, hFew, hStored⟩ := h
  exact ⟨by rw [hCursor, hBound], by rwa [hTable], by rwa [hTable], by rwa [hCursor, hTable]⟩

theorem warns_reports (hQuiet : Quiet source) (s : State σ) (second : Int) :
    (s.reports source).countP (·.warnsOf second) = 0 := by
  rw [List.countP_eq_zero, State.reports]
  intro notice hNotice
  obtain ⟨r, hr, rfl⟩ := List.mem_map.1 hNotice
  simp [hQuiet _ _ r hr second]

theorem warns_stop (hQuiet : Quiet source)
    (hStep : step source clip s = ⟨notices, s', some reason⟩) (second : Int) :
    notices.countP (·.warnsOf second) = 0 := by
  have hStepped := stepped source clip s
  rw [hStep] at hStepped
  cases hStepped with
  | done => rfl
  | _ => exact warns_reports hQuiet s second

/-- A page warns of the second asked for, if it is full and does not go below that. -/
theorem warns_pass (c : Cursor) (oldest : Int) (fetched pageSize : Nat) (second : Int) :
    (c.pass oldest fetched pageSize).2.countP (·.warnsOf second) =
      if second = c.asOf ∧ ¬ oldest < c.asOf ∧ pageSize ≤ fetched then 1 else 0 := by
  unfold Cursor.pass
  by_cases hMoves : oldest < c.asOf
  · simp [hMoves]
  · rw [if_neg hMoves, List.countP_singleton]
    by_cases hFull : pageSize ≤ fetched
    · simp [hMoves, hFull, warnsOf_fullSecond]
    · simp [hFull, warnsOf_steppedBack]

/-- **A step warns of its second exactly if that is full.** -/
theorem warns_step (hServes : source.ServesInOrder history) (hOrder : NewestFirst history)
    (hQuiet : Quiet source) (hStep : step source clip s = ⟨notices, s', none⟩) (second : Int) :
    notices.countP (·.warnsOf second) =
      if second = s.cursor.asOf ∧ source.pageSize ≤ history.countP (·.timestamp = second) then 1
      else 0 := by
  obtain ⟨first, rest, -, hReply, -, hPage, -, -, rfl⟩ := step_turn hStep
  rw [hServes _ _ _ hReply] at hPage
  have hFull := stays_iff_full hOrder hPage
  have hEvent : [Notice.event (s.turn source s').event].countP (·.warnsOf second) = 0 := rfl
  rw [List.countP_append, List.countP_append, warns_reports hQuiet, State.passed, warns_pass,
    hEvent]
  by_cases hSecond : second = s.cursor.asOf
  · subst hSecond
    simp only [true_and, hFull, Nat.zero_add, Nat.add_zero]
  · simp [hSecond]

/-- **A run warns of every full second of its span**, once. -/
theorem warns_walk (hSize : 1 ≤ source.pageSize) (hServes : source.ServesInOrder history)
    (hOrder : NewestFirst history) (hQuiet : Quiet source)
    (hEnds : (walk source clip s).reason.isComplete = true) (second : Int) :
    (walk source clip s).notices.countP (·.warnsOf second) =
      if s.cursor.lowerBound < second ∧ second ≤ s.cursor.asOf ∧
        source.pageSize ≤ history.countP (·.timestamp = second) then 1 else 0 := by
  fun_induction walk source clip s with
  | case1 s notices s' reason hStep =>
    -- Nothing is left between the bound and the cursor, so no second there is full.
    rw [warns_stop hQuiet hStep, if_neg]
    rintro ⟨hBound, hUpTo, hFull⟩
    obtain ⟨x, hx, hTime⟩ := List.countP_pos_iff.1 (Nat.lt_of_lt_of_le hSize hFull)
    have hTime := of_decide_eq_true hTime
    have hLate := lt_of_complete hSize (hServes.serves hOrder) hStep hEnds hx (by omega)
    omega
  | case2 s notices s' hStep rest ih =>
    obtain ⟨hDown, hBound, hAbove⟩ := step_descends hStep
    obtain ⟨first, rest, -, hReply, -, hPage, -, hWritten, -⟩ := step_turn hStep
    rw [hServes _ _ _ hReply] at hPage
    -- Between the cursors there is no full second.
    have hBetween : source.pageSize ≤ history.countP (·.timestamp = second) →
        second < s.cursor.asOf → second ≤ s'.cursor.asOf := by
      intro hFull hBelow
      refine Int.not_lt.1 fun hPassed => ?_
      rw [hWritten] at hPassed
      exact absurd (count_lt_of_passed hOrder hPage hBelow hPassed) (Nat.not_lt.2 hFull)
    rw [List.countP_append, warns_step hServes hOrder hQuiet hStep, ih hEnds, hBound]
    by_cases hFull : source.pageSize ≤ history.countP (·.timestamp = second)
    · have hBetween := hBetween hFull
      simp only [hFull, and_true]
      split <;> split <;> split <;> omega
    · simp [hFull]

/-- **What a run loses, and what it warns of.** A run in which nothing fails, on an empty table,
stores of every second of its span the first swaps, as many as fit on a page, and loses the others.
It warns of every second of its span that has as many swaps as fit on a page or more, once, and of
no other second. -/
theorem run_full_seconds {medium : Medium} {state : σ} (hSize : 1 ≤ source.pageSize)
    (hServes : source.ServesInOrder history) (hOrder : NewestFirst history)
    (hValid : ∀ x ∈ history, x.validate = .ok ()) (hIds : (history.map (·.id)).Nodup)
    (hQuiet : Quiet source) (hEmpty : medium.table = .empty)
    (hUnfailing : Unfailing source clip ⟨start, {}, medium, state⟩) :
    let finished := run source clip start medium state
    (∀ before x after, history = before ++ x :: after →
      start.lowerBound < x.timestamp → x.timestamp ≤ start.asOf →
      ((∃ r ∈ finished.medium.table.rows, r.Holds x.entry) ↔
        before.countP (·.timestamp = x.timestamp) < source.pageSize)) ∧
      ∀ second, finished.notices.countP (·.warnsOf second) =
        if start.lowerBound < second ∧ second ≤ start.asOf ∧
          source.pageSize ≤ history.countP (·.timestamp = second) then 1 else 0 := by
  intro finished
  let first : State σ := ⟨start, {}, medium, state⟩
  have hEnds : (walk source clip first).reason.isComplete = true := by
    refine hUnfailing.isComplete fun asOf state page hReply x hx => ?_
    obtain rfl := hServes asOf state page hReply
    exact hValid x (mem_pageOf hx).1
  have hAdmitted : Admitted history source.pageSize start (walk source clip first).state :=
    walk_preserves (fun h hStep => h.step hServes hOrder hIds hStep) (fun h hStep => h.stop hStep)
      (.initial hEmpty)
  refine ⟨fun before x after hSplit hBound hUpTo => ⟨?_, fun hFew => ?_⟩, fun second => ?_⟩
  · rintro ⟨r, hr, hRow⟩
    exact hAdmitted.few hSplit (Table.contains_iff.2 ⟨r, hr, hRow.key⟩)
  · have hHistory : x ∈ history := by simp [hSplit]
    have hPassed := lt_of_walk_complete hSize (hServes.serves hOrder) hEnds hHistory
      (by rwa [hAdmitted.lowerBound])
    exact hAdmitted.isOf.holds_of_contains hIds hHistory
      (hAdmitted.stored hSplit hBound hPassed hUpTo hFew)
  · show (_ :: (walk source clip first).notices ++ [_]).countP _ = _
    rw [List.countP_append, List.countP_cons, warns_walk hSize hServes hOrder hQuiet hEnds]
    simp [Notice.warnsOf, first]

/-- A second of which the last swap does not fit on a page, and one that a page cuts. -/
theorem run_full_seconds_overfull :
    let history : List Swap :=
      [.sample "a" 7, .sample "b" 6, .sample "c" 6, .sample "d" 6, .sample "e" 3]
    let source := Source.ofHistory history 2
    let finished := run source true ⟨7, 1⟩ (.ofTable .empty) ()
    ((∃ r ∈ finished.medium.table.rows, r.Holds (Swap.sample "c" 6).entry) ∧
      ¬ ∃ r ∈ finished.medium.table.rows, r.Holds (Swap.sample "d" 6).entry) ∧
      finished.notices.countP (·.warnsOf 6) = 1 ∧ finished.notices.countP (·.warnsOf 7) = 0 := by
  intro history source finished
  have hOrder : NewestFirst history := by simp [history, NewestFirst, Swap.sample]
  have hValid : ∀ x ∈ history, x.validate = .ok () := by
    simp only [history, List.forall_mem_cons]
    refine ⟨?_, ?_, ?_, ?_, ?_, by simp⟩ <;> exact Swap.validate_sample rfl (by decide)
  have hUnfailing : Unfailing source true ⟨⟨7, 1⟩, {}, .ofTable .empty, ()⟩ :=
    unfailing_of_ready (fun _ _ => ⟨_, rfl⟩) (fun _ => rfl) rfl
  have hIds : (history.map (·.id)).Nodup := by decide
  obtain ⟨hStored, hWarned⟩ := run_full_seconds (by decide)
    (Source.servesInOrder_ofHistory history 2) hOrder hValid hIds
    (fun _ _ _ hr => absurd hr List.not_mem_nil) rfl hUnfailing
  have hThird := hStored [.sample "a" 7, .sample "b" 6] (.sample "c" 6)
    [.sample "d" 6, .sample "e" 3] rfl (by decide) (by decide)
  have hFourth := hStored [.sample "a" 7, .sample "b" 6, .sample "c" 6] (.sample "d" 6)
    [.sample "e" 3] rfl (by decide) (by decide)
  exact ⟨⟨hThird.2 (by decide), fun h => absurd (hFourth.1 h) (by decide)⟩,
    hWarned 6, hWarned 7⟩

end Fetch
end SwapArchive
