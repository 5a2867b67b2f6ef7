import SwapArchive.Proofs.Json.Draft
import SwapArchive.Proofs.Store.Sessions

/-!
# Swaps that are stored and read back

Whatever text a swap has been read from, its time has 64 bits, so that the swap is read back from
its stored form. An entry that is written under a new key is therefore the last one of a scan.
-/

namespace SwapArchive

open Text (IntegerRange)
open Json (Field Yields)

theorem eq_ok_of_toOption {ε α : Type} {x : Except ε α} {a : α} (h : x.toOption = some a) :
    x = .ok a := by
  cases x with
  | error e => cases h
  | ok b => exact congrArg Except.ok (Option.some.inj h)

/-- What is taken for the time of a swap has 64 bits. -/
theorem contains_of_timeOfLoose {value : Json.Loose} {n : Int} (h : timeOfLoose value = .ok n) :
    IntegerRange.signed64.contains n = true := by
  unfold timeOfLoose at h
  split at h
  · split at h
    · next hInside =>
      cases h
      exact hInside
    · cases h
  · split at h
    · next hRead =>
      cases h
      exact Text.contains_of_readInteger hRead (by decide)
    · cases h
  · cases h

namespace Swap

/-- Fields of a swap with a time of 64 bits, if it has been read. -/
def Draft.IsTimed (d : Draft) : Prop :=
  ∀ n, d.timestamp = some n → IntegerRange.signed64.contains n = true

theorem keeps_timestampField : timestampField.Keeps Draft.IsTimed := by
  intro limits d hd
  refine .after _ fun value => ?_
  split
  · next n hTime =>
    refine Json.yields_pure (Json.ofFields_ok fun m hSame => ?_)
    cases hSame
    exact contains_of_timeOfLoose hTime
  · exact Json.yields_pure (Json.ofFields_error _)

theorem keeps_fields : ∀ field ∈ shape.fields, field.Keeps Draft.IsTimed := by
  simp only [shape, List.forall_mem_cons]
  refine ⟨?_, ?_, ?_, ?_, ?_, ?_, ?_, keeps_timestampField, nofun⟩
  all_goals exact Field.keeps_of fun _ _ h => h

/-- A swap is built with the time that has been read. -/
theorem timestamp_of_build {d : Draft} {x : Swap} (h : shape.build d = .ok x) :
    d.timestamp = some x.timestamp := by
  obtain ⟨id, -, h⟩ := bind_eq_ok.1 h
  obtain ⟨transaction, -, h⟩ := bind_eq_ok.1 h
  obtain ⟨pool, -, h⟩ := bind_eq_ok.1 h
  obtain ⟨amount0, -, h⟩ := bind_eq_ok.1 h
  obtain ⟨amount1, -, h⟩ := bind_eq_ok.1 h
  obtain ⟨timestamp, hGiven, h⟩ := bind_eq_ok.1 h
  cases h
  unfold Json.needed at hGiven
  split at hGiven
  · next hSome =>
    cases hGiven
    exact hSome
  · cases hGiven

/-- **A swap that has been read has a time of 64 bits.** -/
theorem yields_read (limits : Json.Limits) :
    Yields (read limits) fun x => IntegerRange.signed64.contains x.timestamp = true := by
  intro k x k' hRead
  obtain ⟨d, hTimed, hBuild⟩ := Json.yields_readRecord keeps_fields (by nofun) k x k' hRead
  exact hTimed _ (timestamp_of_build hBuild)

end Swap

/-- **An entry that is new is scanned after the others.** -/
theorem Shard.scan_insert {s : Shard} {t : Table} {e : Entry} (hTable : s.table? = .ok t)
    (hNumbered : t.IsNumbered) (hWritable : s.writing.obstacle? = none)
    (hNew : t.contains e.key = false)
    (hTime : IntegerRange.signed64.contains e.swap.timestamp = true) :
    ∃ s', s.insert e = (.ok true, s') ∧ s'.scan = s.scan ++ [.ok e] := by
  have hWritten : t.insertAll [e] = (t.put e, 1) := by
    rw [Table.insertAll_single, if_neg (by simp [hNew])]
  obtain ⟨r, hRows, hRow⟩ := t.holds_put e
  have hKeeps : Shard.table? { s with content := .table (t.put e) } = .ok (t.put e) :=
    table?_eq_ok.2 ⟨(table?_eq_ok.1 hTable).1, rfl⟩
  have hNumbered' : (t.put e).IsNumbered := hNumbered.append _ _ _
  refine ⟨{ s with content := .table (t.put e) }, ?_, ?_⟩
  · rw [insert_eq, insertAll_of_writable hTable hWritable, hWritten]
    rfl
  · rw [scan, scan, hTable, hKeeps]
    show (t.put e).scan scanBatch = t.scan scanBatch ++ [.ok e]
    rw [Table.scan_eq_entries hNumbered (by decide), Table.scan_eq_entries hNumbered' (by decide),
      Table.entries, Table.entries, hRows, List.map_append, List.map_singleton, hRow.entry_eq hTime]

/-- **Swaps are stored faithfully.** A swap with a time of 64 bits, and whatever swap has been read
from a text, is read back from its stored form; and an entry that is written under a new key is read
back from its shard. -/
theorem Swap.stored_faithfully :
    (∀ x : Swap, IntegerRange.signed64.contains x.timestamp = true → ofText x.stored = .ok x) ∧
    (∀ bytes x, Json.readDocument Swap.read bytes = .ok x → ofText x.stored = .ok x) ∧
    ∀ (s : Shard) (t : Table) (e : Entry), s.table? = .ok t → t.IsNumbered →
      s.writing.obstacle? = none → t.contains e.key = false →
      IntegerRange.signed64.contains e.swap.timestamp = true →
      ∃ s', s.insert e = (.ok true, s') ∧ s'.scan = s.scan ++ [.ok e] := by
  refine ⟨ofText_stored, fun bytes x hRead => ?_, fun s t e => Shard.scan_insert⟩
  exact ofText_stored x (Json.readDocument_yields
    (Q := fun x : Swap => IntegerRange.signed64.contains x.timestamp = true) yields_read hRead)

/-- A swap with a quotation mark and a control character, at the least time; a list in place of an
object, with a sign and white space around the time; and members in another order, one of which is
unknown, with a time that is no text. This last swap is stored after the first one. -/
theorem Swap.stored_faithfully_in_all_forms :
    let first : Swap := { (default : Swap) with
      id := "say \"\t\u0001\"", recipient := some "é", timestamp := -9223372036854775808 }
    let list := "[\"a\",[\"0x1\"],[\"0x2\",[\"0x3\"],[\"0x4\",\"WETH\"]],null,\"é\","
      ++ "\"1\",\"-2\",\" +7 \"]"
    let object := "\x7b\"timestamp\":7,\"fee\":[0.3,\x7b\x7d],\"amount1\":\"-2\",\"amount0\":\"1\","
      ++ "\"recipient\":\"\\u00e9\",\"pool\":[\"0x2\",[\"0x3\"],[\"0x4\",\"WETH\"]],"
      ++ "\"transaction\":\x7b\"id\":\"0x1\"\x7d,\"id\":\"a\"\x7d"
    let second : Swap := ⟨"a", ⟨"0x1", none⟩, ⟨"0x2", ⟨"0x3", ""⟩, ⟨"0x4", "WETH"⟩⟩, none, some "é",
      "1", "-2", 7⟩
    let shard : Shard := { Shard.inMemory with content := .table (Table.empty.put ⟨"b", first, 0⟩) }
    ofText first.stored = .ok first ∧
      Json.readDocument Swap.read (Text.encode list) = .ok second ∧
      Json.readDocument Swap.read (Text.encode object) = .ok second ∧
      ofText second.stored = .ok second ∧
      ∃ s', shard.insert ⟨"a", second, 7⟩ = (.ok true, s') ∧
        s'.scan = shard.scan ++ [.ok ⟨"a", second, 7⟩] := by
  intro first list object second shard
  have hList : Json.readDocument Swap.read (Text.encode list) = .ok second :=
    eq_ok_of_toOption (by decide +kernel)
  have hObject : Json.readDocument Swap.read (Text.encode object) = .ok second :=
    eq_ok_of_toOption (by decide +kernel)
  have hNumbered : (Table.empty.put ⟨"b", first, 0⟩).IsNumbered :=
    Table.isNumbered_empty.append _ _ _
  exact ⟨stored_faithfully.1 first (by decide), hList, hObject, stored_faithfully.2.1 _ _ hList,
    stored_faithfully.2.2 shard _ _ rfl hNumbered rfl (by decide) (by decide)⟩

end SwapArchive
