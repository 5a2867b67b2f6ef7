import SwapArchive.Proofs.Store.Scan
import SwapArchive.Proofs.Swap.Json

/-!
# What stored rows are decoded to

A row that an entry has been stored in is decoded to this entry, so that a scan of the rows of a
table yields the entries that have been written.
-/

namespace SwapArchive

open Text (IntegerRange)

variable {rows : List Row} {entries : List Entry} {t : Table}

/-- The row of an entry is decoded to the entry, if the time of its swap has 64 bits. -/
theorem Row.Holds.entry_eq {r : Row} {e : Entry} (h : r.Holds e)
    (hTime : IntegerRange.signed64.contains e.swap.timestamp = true) : r.entry = .ok e := by
  have hText : Swap.ofText r.text = .ok e.swap := by
    rw [h.text]
    exact Swap.ofText_stored e.swap hTime
  rw [Row.entry, hText]
  show Except.ok (⟨r.key, e.swap, r.time⟩ : Entry) = .ok e
  rw [h.key, h.time]

theorem entries_of_holds (h : List.Forall₂ Row.Holds rows entries)
    (hTimes : ∀ e ∈ entries, IntegerRange.signed64.contains e.swap.timestamp = true) :
    rows.map Row.entry = entries.map .ok := by
  induction h with
  | nil => rfl
  | cons hRow _ ih =>
    rw [List.forall_mem_cons] at hTimes
    rw [List.map_cons, List.map_cons, hRow.entry_eq hTimes.1, ih hTimes.2]

/-- **A scan yields the entries that the rows hold**, in the order of writing. -/
theorem Table.scan_of_holds {batchSize : Nat} (hNumbered : t.IsNumbered) (hSize : 1 ≤ batchSize)
    (h : List.Forall₂ Row.Holds t.rows entries)
    (hTimes : ∀ e ∈ entries, IntegerRange.signed64.contains e.swap.timestamp = true) :
    t.scan batchSize = entries.map .ok := by
  rw [scan_eq_entries hNumbered hSize]
  exact entries_of_holds h hTimes

end SwapArchive
