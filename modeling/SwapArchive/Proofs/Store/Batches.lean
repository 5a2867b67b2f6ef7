import Mathlib.Data.List.Forall2
import SwapArchive.Proofs.Store.Decoding
import SwapArchive.Store.Shard

/-!
# Reading a table in batches

A scan may be asked for a next entry as often as one likes. It answers with the entries of the table
one after the other, and with none from then on. The size of its batches does not show: neither in
the answers, nor in where they end.
-/

namespace SwapArchive

variable {t : Table} {batchSize : Nat}

/-- **What a row is read as**: the swap in its text, under its key and time, or a data error with
its key if the text is no swap. -/
inductive Row.ReadAs (r : Row) : Outcome Entry → Prop
  | swap {x : Swap} (hText : Swap.ofText r.text = .ok x) : r.ReadAs (.ok ⟨r.key, x, r.time⟩)
  | noSwap {e : Json.Error} (hText : Swap.ofText r.text = .error e) :
      r.ReadAs (.error (.data s!"stored swap {r.key} is unreadable: {e.message}"))

theorem Row.readAs_entry (r : Row) : r.ReadAs r.entry := by
  rw [entry]
  cases hText : Swap.ofText r.text with
  | ok x => exact .swap hText
  | error e => exact .noSwap hText

theorem Table.readAs_entries (t : Table) : List.Forall₂ Row.ReadAs t.rows t.entries := by
  rw [entries, List.forall₂_map_right_iff]
  exact List.forall₂_same.2 fun r _ => r.readAs_entry

namespace Scan

/-- **Answers** of a scan that is asked `n` times for a next entry, whether there is one or not. -/
def answers (t : Table) (batchSize : Nat) : (n : Nat) → Scan → List (Option (Outcome Entry))
  | 0, _ => []
  | n + 1, s => (s.next t batchSize).1 :: answers t batchSize n (s.next t batchSize).2

/-- The answers of a scan are the entries of its pending rows, and none behind them. -/
theorem answers_eq (hSize : 1 ≤ batchSize) (hGrow : t.rows.Pairwise fun a b => a.id < b.id)
    (n : Nat) (s : Scan) :
    answers t batchSize n s = (List.range n).map fun i => (s.pending t)[i]?.map Row.entry := by
  induction n generalizing s with
  | zero => rfl
  | succ n ih =>
    obtain ⟨hEntry, hRest⟩ := next_of_pending (s := s) hSize hGrow
    rw [answers, ih, hEntry, hRest, List.range_succ_eq_map, List.map_cons, List.map_map,
      List.head?_eq_getElem?]
    refine congrArg (_ :: ·) (List.map_congr_left fun i _ => ?_)
    rw [List.getElem?_tail]
    rfl

end Scan

/-- **A scan in batches reads the whole table.** Every row is read as one entry, in the order of the
numbers; a row that cannot be decoded is one as well, and the scan goes on behind it. A scan that is
asked again and again answers with these entries and then with none, however large its batches are.
So it yields all of them, or the first ones if it is not asked for more. -/
theorem Table.scan_in_batches (t : Table) (hNumbered : t.IsNumbered) :
    List.Forall₂ Row.ReadAs t.rows t.entries ∧
      (∀ batchSize, 1 ≤ batchSize →
        t.scan batchSize = t.entries ∧
        (∀ n, Scan.toList t batchSize n .start = t.entries.take n) ∧
        ∀ n, Scan.answers t batchSize n .start = (List.range n).map fun i => t.entries[i]?) ∧
      ∀ shard : Shard, shard.table? = .ok t → shard.scan = t.entries := by
  have hStart : Scan.start.pending t = t.rows := Scan.pending_start hNumbered
  refine ⟨t.readAs_entries, fun batchSize hSize => ⟨?_, fun n => ?_, fun n => ?_⟩, ?_⟩
  · exact scan_eq_entries hNumbered hSize
  · rw [Scan.toList_eq hSize hNumbered.grow, hStart, entries, List.map_take]
  · rw [Scan.answers_eq hSize hNumbered.grow, hStart]
    exact List.map_congr_left fun i _ => List.getElem?_map.symm
  · intro shard hTable
    rw [Shard.scan, hTable]
    exact scan_eq_entries hNumbered (by decide)

/-- Rows with gaps between their numbers, two of which are no swaps: as many as fill two batches. -/
theorem Table.scan_in_batches_torn :
    let swap : Swap := { (default : Swap) with id := "b", timestamp := 7 }
    let t : Table := ⟨[⟨2, "", 3, "a"⟩, ⟨3, swap.stored, 7, "b"⟩, ⟨7, swap.stored, 7, "c"⟩,
      ⟨9, "null", 9, "d"⟩]⟩
    t.IsNumbered ∧ t.scan 2 = t.scan 500 ∧
      (t.scan 2).map Except.toOption
        = [none, some ⟨"b", swap, 7⟩, some ⟨"c", swap, 7⟩, none] ∧
      (Scan.answers t 2 7 .start).drop 4 = [none, none, none] := by
  intro swap t
  have hNumbered : t.IsNumbered := ⟨by decide, by decide⟩
  obtain ⟨-, hBatches, -⟩ := scan_in_batches t hNumbered
  obtain ⟨hScan, -, hAnswers⟩ := hBatches 2 (by decide)
  have hTime : Text.IntegerRange.signed64.contains swap.timestamp = true := by decide
  have hSwap (id : Nat) (key : String) :
      (Row.entry ⟨id, swap.stored, 7, key⟩).toOption = some ⟨key, swap, 7⟩ := by
    have hHolds : Row.Holds ⟨id, swap.stored, 7, key⟩ ⟨key, swap, 7⟩ := ⟨rfl, rfl, rfl⟩
    rw [hHolds.entry_eq hTime]
    rfl
  have hTorn : (Row.entry ⟨2, "", 3, "a"⟩).toOption = none ∧
      (Row.entry ⟨9, "null", 9, "d"⟩).toOption = none := by decide +kernel
  refine ⟨hNumbered, hScan.trans (hBatches 500 (by decide)).1.symm, ?_, ?_⟩
  · rw [hScan]
    simp only [t, entries, List.map_cons, List.map_nil, hSwap, hTorn]
  · rw [hAnswers]
    rfl

end SwapArchive
