import SwapArchive.Proofs.Store.Writing
import SwapArchive.Store.Scan

/-!
# What a scan yields

Rows are numbered in the order of writing, so a scan that goes on after the last row it has fetched
passes over none and repeats none.
-/

namespace SwapArchive

variable {t : Table} {s : Scan} {rows before after : List Row} {row last : Row} {batchSize n : Nat}

/-- The numbers of the rows are positive and grow from one row to the next. -/
structure Table.IsNumbered (t : Table) : Prop where
  positive : ∀ r ∈ t.rows, 0 < r.id
  grow : t.rows.Pairwise fun a b => a.id < b.id

/-- The rows that are numbered after one of them are those that follow it. -/
theorem filter_after (h : (before ++ last :: after).Pairwise fun a b : Row => a.id < b.id) :
    (before ++ last :: after).filter (last.id < ·.id) = after := by
  obtain ⟨-, hLast, hBefore⟩ := List.pairwise_append.1 h
  rw [List.pairwise_cons] at hLast
  have hNone : before.filter (last.id < ·.id) = [] := by
    rw [List.filter_eq_nil_iff]
    intro r hr
    have hSmaller := hBefore r hr last List.mem_cons_self
    simp only [decide_eq_true_eq]
    omega
  have hAll : after.filter (last.id < ·.id) = after := by
    rw [List.filter_eq_self]
    intro r hr
    exact decide_eq_true (hLast.1 r hr)
  rw [List.filter_append, hNone, List.filter_cons_of_neg (by simp), hAll, List.nil_append]

/-- What follows a row among those behind some number are the rows behind that row. -/
theorem filter_of_parts (hGrow : rows.Pairwise fun a b => a.id < b.id)
    (hParts : rows.filter (n < ·.id) = before ++ last :: after) :
    rows.filter (last.id < ·.id) = after := by
  have hLast : n < last.id := by
    have hMem : last ∈ rows.filter (n < ·.id) := by
      rw [hParts]
      simp
    exact of_decide_eq_true (List.mem_filter.1 hMem).2
  have hTwice : rows.filter (last.id < ·.id)
      = (rows.filter (n < ·.id)).filter (last.id < ·.id) := by
    rw [List.filter_filter]
    refine List.filter_congr fun r _ => ?_
    by_cases hr : last.id < r.id
    · simp [hr, Nat.lt_trans hLast hr]
    · simp [hr]
  rw [hTwice, hParts]
  exact filter_after (hParts ▸ hGrow.filter _)

namespace Scan

/-- **Pending rows**: those in the buffer and those that are still to be fetched. -/
def pending (t : Table) (s : Scan) : List Row :=
  s.buffer ++ if s.exhausted then [] else t.rows.filter (s.lastId < ·.id)

/-- Fetching a batch leaves the pending rows as they are. -/
theorem pending_fill (hSize : 1 ≤ batchSize) (hGrow : t.rows.Pairwise fun a b => a.id < b.id)
    (hBuffer : s.buffer = []) (hOpen : s.exhausted = false) :
    (s.fill t batchSize).pending t = s.pending t ∧
      ((s.fill t batchSize).buffer = [] → s.pending t = []) := by
  have hPending : s.pending t = t.rows.filter (s.lastId < ·.id) := by
    rw [pending, hBuffer, hOpen]
    rfl
  obtain ⟨rest, hEq⟩ : ∃ rest, t.rows.filter (s.lastId < ·.id) = rest := ⟨_, rfl⟩
  rw [hPending]
  simp only [fill, pending, batch, hBuffer, List.nil_append, hEq]
  by_cases hShort : rest.length < batchSize
  · -- The batch is the last one.
    have hAll : rest.take batchSize = rest := List.take_of_length_le (by omega)
    simp [hAll, hShort]
  · -- The batch is full, and the next one begins behind its last row.
    have hFull : (rest.take batchSize).length = batchSize := List.length_take_of_le (by omega)
    obtain ⟨before, last, hBatch⟩ : ∃ before last, rest.take batchSize = before ++ [last] := by
      refine ⟨_, _, (List.dropLast_append_getLast (l := rest.take batchSize) ?_).symm⟩
      intro hNil
      rw [hNil, List.length_nil] at hFull
      omega
    have hParts : rest = before ++ last :: rest.drop batchSize := by
      have hSplit := List.take_append_drop batchSize rest
      rw [hBatch, List.append_assoc, List.singleton_append] at hSplit
      exact hSplit.symm
    have hLater : t.rows.filter (last.id < ·.id) = rest.drop batchSize :=
      filter_of_parts hGrow (hEq.trans hParts)
    have hFetched : ((rest.take batchSize).getLast?.map (·.id)).getD s.lastId = last.id := by
      rw [hBatch]
      simp
    have hMore : decide ((rest.take batchSize).length < batchSize) = false := by simp [hFull]
    refine ⟨?_, fun hNil => ?_⟩
    · simp only [hFetched, hMore, hLater, Bool.false_eq_true, if_false, List.take_append_drop]
    · rw [hNil, List.length_nil] at hFull
      omega

/-- The entry of the first row in the buffer, and the scan behind it. -/
def first (s : Scan) : Option (Outcome Entry) × Scan :=
  match s.buffer with
  | [] => (none, s)
  | row :: rest => (some row.entry, { s with buffer := rest })

theorem next_eq (t : Table) (batchSize : Nat) (s : Scan) :
    s.next t batchSize
      = first (if s.buffer.isEmpty && !s.exhausted then s.fill t batchSize else s) := rfl

/-- **The next entry** is that of the first pending row, and the others are pending then. -/
theorem next_of_pending (hSize : 1 ≤ batchSize) (hGrow : t.rows.Pairwise fun a b => a.id < b.id) :
    (s.next t batchSize).1 = (s.pending t).head?.map Row.entry ∧
      (s.next t batchSize).2.pending t = (s.pending t).tail := by
  -- The scan after the buffer has been filled, if that was necessary.
  obtain ⟨filled, hNext, hSame, hEmpty⟩ : ∃ filled : Scan, s.next t batchSize = filled.first ∧
      filled.pending t = s.pending t ∧ (filled.buffer = [] → s.pending t = []) := by
    by_cases hFill : (s.buffer.isEmpty && !s.exhausted) = true
    · rw [Bool.and_eq_true, List.isEmpty_iff, Bool.not_eq_true'] at hFill
      have hFilled := pending_fill hSize hGrow hFill.1 hFill.2
      refine ⟨s.fill t batchSize, ?_, hFilled⟩
      rw [next_eq, if_pos (by simp [hFill])]
    · refine ⟨s, ?_, rfl, fun hNil => ?_⟩
      · rw [next_eq, if_neg hFill]
      · have hDone : s.exhausted = true := by simpa [hNil] using hFill
        rw [pending, hNil, hDone]
        rfl
  rw [hNext, first]
  cases hBuffer : filled.buffer with
  | nil =>
    rw [hEmpty hBuffer]
    exact ⟨rfl, hSame.trans (hEmpty hBuffer)⟩
  | cons row rest =>
    rw [← hSame, pending, hBuffer]
    exact ⟨rfl, rfl⟩

/-- What a scan yields are the entries of its pending rows. -/
theorem toList_eq (hSize : 1 ≤ batchSize) (hGrow : t.rows.Pairwise fun a b => a.id < b.id)
    (count : Nat) (s : Scan) :
    toList t batchSize count s = ((s.pending t).take count).map Row.entry := by
  -- The induction is on the answers wanted; each takes the first of the rows pending.
  induction count generalizing s with
  | zero => simp [toList]
  | succ count ih =>
    obtain ⟨hEntry, hRest⟩ := next_of_pending (s := s) hSize hGrow
    rw [toList]
    generalize s.next t batchSize = asked at *
    obtain ⟨answer, s'⟩ := asked
    cases hPending : s.pending t with
    | nil =>
      rw [hPending] at hEntry
      obtain rfl : answer = none := hEntry
      rfl
    | cons row rows =>
      rw [hPending] at hEntry hRest
      obtain rfl : answer = some row.entry := hEntry
      obtain rfl : s'.pending t = rows := hRest
      exact congrArg (row.entry :: ·) (ih s')

theorem pending_start (h : t.IsNumbered) : start.pending t = t.rows := by
  rw [pending, start, List.nil_append]
  exact List.filter_eq_self.2 fun r hr => decide_eq_true (h.positive r hr)

end Scan

/-- **A scan yields every entry once**, in the order of writing. -/
theorem Table.scan_eq_entries (h : t.IsNumbered) (hSize : 1 ≤ batchSize) :
    t.scan batchSize = t.entries := by
  rw [scan, Scan.toList_eq hSize h.grow, Scan.pending_start h, count, List.take_length]
  rfl

namespace Table

theorem isNumbered_empty : Table.empty.IsNumbered := ⟨nofun, .nil⟩

/-- A new row has a number after those of all others. -/
theorem IsNumbered.append (h : t.IsNumbered) (key text : String) (time : Int) :
    (t.append key text time).IsNumbered := by
  -- The next number is one more than the last, and the numbers before are smaller still.
  have hNew : ∀ r ∈ t.rows, r.id < t.nextId := by
    intro r hr
    rcases List.eq_nil_or_concat t.rows with hNil | ⟨before, last, hRows⟩
    · rw [hNil] at hr
      cases hr
    · have hGrow := h.grow
      rw [List.concat_eq_append] at hRows
      rw [hRows] at hr hGrow
      have hNext : t.nextId = last.id + 1 := by rw [nextId, hRows]; simp
      rw [hNext]
      rcases List.mem_append.1 hr with hBefore | hLast
      · have hSmaller := (List.pairwise_append.1 hGrow).2.2 r hBefore last (by simp)
        omega
      · rw [List.mem_singleton.1 hLast]
        omega
  refine ⟨fun r hr => ?_, ?_⟩
  · rcases List.mem_append.1 hr with hOld | hLast
    · exact h.positive r hOld
    · rw [List.mem_singleton.1 hLast]
      exact Nat.succ_pos _
  · refine List.pairwise_append.2 ⟨h.grow, List.pairwise_singleton _ _, fun r hr r' hr' => ?_⟩
    rw [List.mem_singleton.1 hr']
    exact hNew r hr

theorem isNumbered_putAll (h : t.IsNumbered) (entries : List Entry) :
    (t.putAll entries).IsNumbered := by
  induction entries generalizing t with
  | nil => exact h
  | cons e entries ih => exact ih (h.append _ _ _)

end Table
end SwapArchive
