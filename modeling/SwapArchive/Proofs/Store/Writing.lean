import Mathlib.Data.List.Forall2
import SwapArchive.Store.Table

/-!
# What writes do to a table

A write appends the entries whose keys are new, in their order, and leaves the rows that are there
already. The rows of a table are therefore a record of the first entry written under each key.
-/

namespace SwapArchive

/-- A row is what an entry is stored as, under any number. -/
structure Row.Holds (r : Row) (e : Entry) : Prop where
  key : r.key = e.key
  text : r.text = e.swap.stored
  time : r.time = e.time

namespace Table

/-- The table with an entry after the others. -/
def put (t : Table) (e : Entry) : Table := t.append e.key e.swap.stored e.time

/-- The table with entries after the others. -/
def putAll (t : Table) (entries : List Entry) : Table := entries.foldl put t

/-- The entries of a page that are appended when it is written: those whose keys have not been
written before. -/
def newEntries (t : Table) : List Entry → List Entry
  | [] => []
  | e :: rest => if t.contains e.key then t.newEntries rest else e :: (t.put e).newEntries rest

variable {t : Table} {entries : List Entry} {e : Entry} {key : String}

@[simp] theorem putAll_nil : t.putAll [] = t := rfl

@[simp] theorem putAll_cons : t.putAll (e :: entries) = (t.put e).putAll entries := rfl

theorem putAll_append (entries' : List Entry) :
    t.putAll (entries ++ entries') = (t.putAll entries).putAll entries' :=
  List.foldl_append

theorem contains_iff : t.contains key ↔ ∃ r ∈ t.rows, r.key = key := by
  simp [contains, List.any_eq_true]

@[simp] theorem contains_empty : Table.empty.contains key = false := rfl

theorem contains_put : (t.put e).contains key ↔ t.contains key ∨ e.key = key := by
  simp only [contains_iff, put, append, List.mem_append, List.mem_singleton]
  constructor
  · rintro ⟨r, hr | rfl, hKey⟩
    · exact .inl ⟨r, hr, hKey⟩
    · exact .inr hKey
  · rintro (⟨r, hr, hKey⟩ | hKey)
    · exact ⟨r, .inl hr, hKey⟩
    · exact ⟨_, .inr rfl, hKey⟩

theorem contains_putAll :
    (t.putAll entries).contains key ↔ t.contains key ∨ ∃ e ∈ entries, e.key = key := by
  induction entries generalizing t with
  | nil => simp
  | cons e rest ih => simp [ih, contains_put, or_assoc]

theorem newEntries_subset : t.newEntries entries ⊆ entries := by
  induction entries generalizing t with
  | nil => exact List.Subset.refl _
  | cons e rest ih =>
    rw [newEntries]
    split
    · exact List.subset_cons_of_subset e ih
    · exact List.cons_subset_cons e ih

/-- A new entry was not in the table, and a key of the page that is not new was. -/
theorem newEntries_keys :
    (∃ x ∈ t.newEntries entries, x.key = key) ↔
      t.contains key = false ∧ ∃ x ∈ entries, x.key = key := by
  -- The table grows with each entry taken, which makes later ones of its key known.
  induction entries generalizing t with
  | nil => simp [newEntries]
  | cons e rest ih =>
    rw [newEntries]
    split
    · next hKnown =>
      rw [ih]
      refine and_congr_right fun hNew => ?_
      have hNe : e.key ≠ key := by
        rintro rfl
        rw [hNew] at hKnown
        exact absurd hKnown Bool.false_ne_true
      simp [hNe]
    · next hNew =>
      by_cases hKey : e.key = key
      · subst hKey
        simp [hNew]
      · have hPut : (t.put e).contains key = t.contains key := by
          rw [Bool.eq_iff_iff, contains_put]
          simp [hKey]
        simp [ih, hKey, hPut]

theorem nodup_newEntries : ((t.newEntries entries).map Entry.key).Nodup := by
  induction entries generalizing t with
  | nil => exact List.nodup_nil
  | cons e rest ih =>
    rw [newEntries]
    split
    · exact ih
    · rw [List.map_cons, List.nodup_cons]
      refine ⟨fun hAgain => ?_, ih⟩
      have hAbsent := (newEntries_keys.1 (List.mem_map.1 hAgain)).1
      rw [contains_put.2 (.inr rfl)] at hAbsent
      cases hAbsent

/-- **The new entries** of a page are those under keys that are not there, the first one under each
key. -/
theorem newEntries_eq : t.newEntries entries
    = (entries.filter fun e => !t.contains e.key).eraseDupsBy fun a b => a.key == b.key := by
  induction entries generalizing t with
  | nil => rfl
  | cons e rest ih =>
    by_cases hKnown : t.contains e.key
    · rw [newEntries, if_pos hKnown, List.filter_cons_of_neg (by simp [hKnown]), ih]
    · rw [newEntries, if_neg hKnown, List.filter_cons_of_pos (by simp [hKnown]),
        List.eraseDupsBy_cons, List.filter_filter, ih]
      congr 2
      refine List.filter_congr fun x _ => ?_
      rw [Bool.eq_iff_iff, Bool.not_eq_true', ← Bool.not_eq_true, contains_put]
      by_cases hSame : e.key = x.key
      · simp [hSame]
      · simp [hSame, Ne.symm hSame]

/-- **A write of a page** appends its new entries and tells their number. -/
theorem insertAll_eq :
    t.insertAll entries = (t.putAll (t.newEntries entries), (t.newEntries entries).length) := by
  induction entries generalizing t with
  | nil => rfl
  | cons e rest ih =>
    by_cases hKnown : t.contains e.key
    · simp [insertAll, insert, newEntries, hKnown, ih]
    · simp [insertAll, insert, newEntries, hKnown, ih, put]

/-- A write of entries that are all there already changes nothing. -/
theorem insertAll_of_contains (h : ∀ e ∈ entries, t.contains e.key = true) :
    t.insertAll entries = (t, 0) := by
  induction entries with
  | nil => rfl
  | cons e rest ih =>
    rw [List.forall_mem_cons] at h
    simp [insertAll, insert, h.1, ih h.2]

/-- Two pages that are written one after the other leave what one page of both would leave. -/
theorem insertAll_append (entries' : List Entry) :
    (t.insertAll (entries ++ entries')).1 = ((t.insertAll entries).1.insertAll entries').1 := by
  induction entries generalizing t with
  | nil => rfl
  | cons e rest ih => exact ih

/-- The keys after a write are those before it and those of the page. -/
theorem contains_insertAll :
    (t.insertAll entries).1.contains key ↔ t.contains key ∨ ∃ e ∈ entries, e.key = key := by
  rw [insertAll_eq, contains_putAll, newEntries_keys]
  cases t.contains key <;> simp

theorem holds_put (t : Table) (e : Entry) : ∃ r, (t.put e).rows = t.rows ++ [r] ∧ r.Holds e :=
  ⟨_, rfl, rfl, rfl, rfl⟩

/-- The rows after entries have been appended: those before, and one for each entry. -/
theorem rows_putAll (t : Table) (entries : List Entry) :
    ∃ added, (t.putAll entries).rows = t.rows ++ added ∧ List.Forall₂ Row.Holds added entries := by
  induction entries generalizing t with
  | nil => exact ⟨[], by simp, .nil⟩
  | cons e rest ih =>
    obtain ⟨r, hRows, hHolds⟩ := holds_put t e
    obtain ⟨added, hAdded, hAll⟩ := ih (t.put e)
    exact ⟨r :: added, by rw [putAll_cons, hAdded, hRows, List.append_assoc]; rfl,
      .cons hHolds hAll⟩

/-- The times of rows are those of the entries that they hold. -/
theorem times_of_holds {rows : List Row} (h : List.Forall₂ Row.Holds rows entries) :
    rows.map (·.time) = entries.map (·.time) := by
  induction h with
  | nil => rfl
  | cons hRow _ ih => rw [List.map_cons, List.map_cons, hRow.time, ih]

/-- The rows after a write: those before, and one for each new entry. -/
theorem rows_insertAll (t : Table) (entries : List Entry) :
    ∃ added, (t.insertAll entries).1.rows = t.rows ++ added ∧
      List.Forall₂ Row.Holds added (t.newEntries entries) := by
  rw [insertAll_eq]
  exact rows_putAll _ _

/-- A write adds as many rows as it tells. -/
theorem count_insertAll : (t.insertAll entries).1.count = t.count + (t.insertAll entries).2 := by
  obtain ⟨added, hRows, hAll⟩ := rows_insertAll t entries
  rw [count, hRows, List.length_append, hAll.length_eq, count, insertAll_eq]

/-- Every row that a write adds holds an entry of the page. -/
theorem holds_of_insertAll (t : Table) (entries : List Entry) :
    ∃ added, (t.insertAll entries).1.rows = t.rows ++ added ∧
      ∀ r ∈ added, ∃ e ∈ entries, r.Holds e := by
  obtain ⟨added, hRows, hAll⟩ := rows_insertAll t entries
  refine ⟨added, hRows, fun r hr => ?_⟩
  obtain ⟨i, hi, rfl⟩ := List.getElem_of_mem hr
  have hBound : i < (t.newEntries entries).length := hAll.length_eq ▸ hi
  have hPaired := (List.forall₂_iff_get.1 hAll).2 i hi hBound
  exact ⟨_, newEntries_subset (List.getElem_mem hBound), hPaired⟩

section Transaction

variable {writing : Writing} {interruption : Option Interruption} {statement n : Nat}
  {t' : Table}

theorem insertRow_eq_ok {p : Table × Bool} (h : t.insertRow writing e = .ok p) :
    p = t.insert e := by
  unfold insertRow at h
  split at h
  · exact (Except.ok.inj h).symm
  split at h
  · next hKnown =>
    rw [Bool.and_eq_true] at hKnown
    rw [insert, if_pos hKnown.2]
    exact (Except.ok.inj h).symm
  · cases h

/-- The statements of a page that all succeed append what is new, one row after the other. -/
theorem insertRows_eq_ok (h : insertRows writing interruption statement t entries = (.ok n, t')) :
    (t', n) = t.insertAll entries := by
  -- Without a failure each statement adds the row that the plain loop adds.
  induction entries generalizing statement t n with
  | nil =>
    rw [insertRows] at h
    split at h
    · cases h
    · cases h
      rfl
  | cons e rest ih =>
    rw [insertRows] at h
    split at h
    · cases h
    · cases h
    · next added isNew _ hRow =>
      rw [insertAll, ← insertRow_eq_ok hRow]
      dsimp only at h ⊢
      generalize hRest : insertRows writing interruption (statement + 1) added rest = result at h
      obtain ⟨f | counted, after⟩ := result
      · cases (Prod.mk.inj h).1
      · obtain ⟨hCount, rfl⟩ := Prod.mk.inj h
        rw [← ih hRest, ← Except.ok.inj hCount]

/-- **A write that succeeds** has written all that is new. -/
theorem write_eq_ok (h : t.write writing interruption entries = (.ok n, t')) :
    (t', n) = t.insertAll entries := by
  unfold write at h
  split at h
  · next hRows =>
    rw [← insertRows_eq_ok hRows]
    cases h
    rfl
  · cases h

/-- **A write that fails** writes nothing: the rows before the failure are taken back. -/
theorem write_error {f : Failure} (h : (t.write writing interruption entries).1 = .error f) :
    (t.write writing interruption entries).2 = t := by
  unfold write at h ⊢
  split
  · next hRows =>
    rw [hRows] at h
    cases h
  · rfl

theorem insertRows_of_writable (h : writing.obstacle? = none) :
    insertRows writing none statement t entries
      = (.ok (t.insertAll entries).2, (t.insertAll entries).1) := by
  induction entries generalizing statement t with
  | nil => rfl
  | cons e rest ih =>
    have hRow : t.insertRow writing e = .ok (t.insert e) := by rw [insertRow, h]
    rw [insertRows, hRow, insertAll]
    dsimp only [Interruption.failure?, Option.filter_none, Option.map_none]
    rw [ih]
    rfl

/-- A table that can be written takes every page. -/
theorem write_of_writable (h : writing.obstacle? = none) :
    t.write writing none entries = (.ok (t.insertAll entries).2, (t.insertAll entries).1) := by
  rw [write, insertRows_of_writable h]

theorem insertRows_of_contains (hWriting : writing ≠ .refused)
    (h : ∀ e ∈ entries, t.contains e.key = true) :
    insertRows writing none statement t entries = (.ok 0, t) := by
  induction entries generalizing statement with
  | nil => rfl
  | cons e rest ih =>
    rw [List.forall_mem_cons] at h
    have hRow : t.insertRow writing e = .ok (t, false) := by
      cases writing with
      | journaled | traceless => simp [insertRow, Writing.obstacle?, insert, h.1]
      | blocked => simp [insertRow, Writing.obstacle?, h.1]
      | refused => exact absurd rfl hWriting
    rw [insertRows, hRow]
    dsimp only [Interruption.failure?, Option.filter_none, Option.map_none]
    rw [ih h.2]
    rfl

/-- What is there already can be written again, unless the table can only be read. -/
theorem write_of_contains (hWriting : writing ≠ .refused)
    (h : ∀ e ∈ entries, t.contains e.key = true) : t.write writing none entries = (.ok 0, t) := by
  rw [write, insertRows_of_contains hWriting h]

end Transaction

theorem earliest?_eq_some {time : Int} :
    t.earliest? = some time ↔ (∃ r ∈ t.rows, r.time = time) ∧ ∀ r ∈ t.rows, time ≤ r.time := by
  simp [earliest?, List.min?_eq_some_iff]

theorem earliest?_eq_none : t.earliest? = none ↔ t.rows = [] := by
  simp [earliest?]

end Table
end SwapArchive
