import Mathlib.Data.Finset.Card
import Mathlib.Data.Finset.Dedup
import SwapArchive.Proofs.Store.Decoding
import SwapArchive.Proofs.Store.Reopening

/-!
# Sessions with a shard

A shard is opened, written, closed and opened again. Whatever is done, its rows are the first
entries that have been written under their keys: a write that breaks is rolled back, and a shard
that is opened again holds what has been saved.
-/

namespace SwapArchive

open Text (IntegerRange)

/-- **First writes**: the first entry under each key, in the order of writing. -/
def firstWrites (entries : List Entry) : List Entry := entries.eraseDupsBy fun a b => a.key == b.key

theorem newEntries_empty (entries : List Entry) :
    Table.empty.newEntries entries = firstWrites entries := by
  rw [Table.newEntries_eq, firstWrites]
  congr 1
  exact List.filter_eq_self.2 fun e _ => by rw [Table.contains_empty]; rfl

theorem firstWrites_subset (entries : List Entry) : firstWrites entries ⊆ entries := by
  rw [← newEntries_empty]
  exact Table.newEntries_subset

/-- There are as many first writes as different keys. -/
theorem length_firstWrites (entries : List Entry) :
    (firstWrites entries).length = (entries.map Entry.key).toFinset.card := by
  have hNodup : ((firstWrites entries).map Entry.key).Nodup := by
    rw [← newEntries_empty]
    exact Table.nodup_newEntries
  have hKeys : ((firstWrites entries).map Entry.key).toFinset
      = (entries.map Entry.key).toFinset := by
    ext key
    rw [List.mem_toFinset, List.mem_toFinset, List.mem_map, List.mem_map, ← newEntries_empty,
      Table.newEntries_keys]
    exact and_iff_right Table.contains_empty
  rw [← hKeys, List.toFinset_card_of_nodup hNodup, List.length_map]

namespace Table

variable {t : Table} {written : List Entry} {key : String}

/-- The rows of a table into which something has been written are the first writes. -/
theorem holds_firstWrites (written : List Entry) :
    List.Forall₂ Row.Holds (empty.insertAll written).1.rows (firstWrites written) := by
  obtain ⟨added, hRows, hAll⟩ := rows_insertAll empty written
  rw [newEntries_empty] at hAll
  rw [hRows]
  exact hAll

theorem contains_written :
    (empty.insertAll written).1.contains key = true ↔ key ∈ written.map Entry.key := by
  rw [contains_insertAll, contains_empty, List.mem_map]
  simp

theorem isNumbered_written : (empty.insertAll written).1.IsNumbered := by
  rw [insertAll_eq]
  exact isNumbered_putAll isNumbered_empty _

theorem insertAll_single (e : Entry) :
    t.insertAll [e] = if t.contains e.key then (t, 0) else (t.put e, 1) := by
  rw [insertAll_eq, newEntries]
  split <;> rfl

end Table

namespace Shard

variable {s s' : Shard} {t : Table} {entries : List Entry} {n : Nat} {f : Failure}
  {interruption : Option Interruption}

/-- A shard can be read if nothing is in the way, and it has a table. -/
theorem table?_eq_ok : s.table? = .ok t ↔ s.obstacle = none ∧ s.content = .table t := by
  constructor
  · intro h
    unfold table? at h
    split at h
    · cases h
    next hReadable =>
    refine ⟨hReadable, ?_⟩
    unfold Content.table? at h
    split at h
    · next hContent => exact hContent.trans (congrArg _ (Except.ok.inj h))
    · cases h
    · cases h
  · rintro ⟨hReadable, hContent⟩
    rw [table?, hReadable, hContent]
    rfl

/-- A write to a shard that can be read is a write to its table. -/
theorem write_eq (h : s.table? = .ok t) : s.write interruption entries
    = ((t.write s.writing interruption entries).1,
      { s with content := .table (t.write s.writing interruption entries).2 }) := by
  rw [write, h]

theorem write_eq_ok (hTable : s.table? = .ok t) (h : s.write interruption entries = (.ok n, s')) :
    s' = { s with content := .table (t.insertAll entries).1 } ∧ n = (t.insertAll entries).2 := by
  rw [write_eq hTable] at h
  obtain ⟨hCount, rfl⟩ := Prod.mk.inj h
  rw [← Table.write_eq_ok (Prod.ext hCount rfl)]
  exact ⟨rfl, rfl⟩

/-- **A write that is interrupted**, or refused, leaves the shard as it was. -/
theorem write_error (hTable : s.table? = .ok t)
    (h : s.write interruption entries = (.error f, s')) : s' = s := by
  rw [write_eq hTable] at h
  obtain ⟨hFailed, rfl⟩ := Prod.mk.inj h
  rw [Table.write_error hFailed, ← (table?_eq_ok.1 hTable).2]

theorem insertAll_of_writable (hTable : s.table? = .ok t) (h : s.writing.obstacle? = none) :
    s.insertAll entries = (.ok (t.insertAll entries).2,
      { s with content := .table (t.insertAll entries).1 }) := by
  rw [insertAll, write_eq hTable, Table.write_of_writable h]

/-- What is there already can be written again, and changes nothing. -/
theorem insertAll_of_contains (hTable : s.table? = .ok t) (hWriting : s.writing ≠ .refused)
    (h : ∀ e ∈ entries, t.contains e.key = true) : s.insertAll entries = (.ok 0, s) := by
  rw [insertAll, write_eq hTable, Table.write_of_contains hWriting h,
    ← (table?_eq_ok.1 hTable).2]

theorem insert_eq (s : Shard) (e : Entry) :
    s.insert e = ((s.insertAll [e]).1.map (· != 0), (s.insertAll [e]).2) := rfl

end Shard

/-- A shard at work, and the tree that its file is in. -/
structure ShardSession where
  tree : Tree
  shard : Shard

namespace ShardSession

/-- What is done in a session: writes with their replies, and opening the shard again. -/
inductive Act where
  | insert (e : Entry) (reply : Outcome Bool)
  | insertAll (entries : List Entry) (reply : Outcome Nat)
  | reopen

/-- What an act writes, if it succeeds. -/
def Act.written : Act → List Entry
  | insert e (.ok _) => [e]
  | insertAll entries (.ok _) => entries
  | _ => []

/-- An act that is replied to by a failure. -/
def Act.Fails : Act → Prop
  | insert _ reply => ∃ f, reply = .error f
  | insertAll _ reply => ∃ f, reply = .error f
  | reopen => False

/-- **Act of a session.** A write may be interrupted at any statement, for any reason. While the
shard is closed, the tree may change everywhere but in the place of the shard. -/
inductive Does : ShardSession → Act → ShardSession → Prop
  | insert {s : ShardSession} {e : Entry} {reply : Outcome Nat} {shard : Shard}
      (interruption : Option Interruption) (h : s.shard.write interruption [e] = (reply, shard)) :
      Does s (.insert e (reply.map (· != 0))) { s with shard := shard }
  | insertAll {s : ShardSession} {entries : List Entry} {reply : Outcome Nat} {shard : Shard}
      (interruption : Option Interruption)
      (h : s.shard.write interruption entries = (reply, shard)) :
      Does s (.insertAll entries reply) { s with shard := shard }
  | reopen {s s' : ShardSession} {place : NodePath} {between : Tree}
      (hPlace : s.shard.place = some place)
      (hSame : Tree.SameAt place (s.tree.save s.shard) between)
      (h : between.openShard s.shard.label = (.ok s'.shard, s'.tree)) : Does s .reopen s'
  | reopenReadOnly {s s' : ShardSession} {place : NodePath} {between : Tree}
      (hPlace : s.shard.place = some place)
      (hSame : Tree.SameAt place (s.tree.save s.shard) between)
      (h : between.openReadOnly s.shard.label = (.ok s'.shard, s'.tree))
      (hReadable : s'.shard.obstacle = none) : Does s .reopen s'

inductive Runs : ShardSession → List Act → ShardSession → Prop
  | nil {s : ShardSession} : Runs s [] s
  | cons {s s' s'' : ShardSession} {a : Act} {acts : List Act} (h : Does s a s')
      (hRest : Runs s' acts s'') : Runs s (a :: acts) s''

/-- A session that begins with an empty shard, in memory or in a file. -/
def IsNew (s : ShardSession) : Prop :=
  s.shard = .inMemory ∨ ∃ (name : String) (before : Tree),
    before.openShard name = (.ok s.shard, s.tree) ∧ s.shard.content = .table .empty

/-- A session whose shard has a table that will be found again. -/
structure Keeps (s : ShardSession) (t : Table) : Prop where
  table : s.shard.table? = .ok t
  stands : ∀ place, s.shard.place = some place → s.tree.Stands s.shard place

variable {s s' : ShardSession} {t : Table} {a : Act} {acts : List Act}
  {written entries : List Entry} {interruption : Option Interruption}

theorem IsNew.keeps (h : s.IsNew) : s.Keeps .empty := by
  rcases h with hMemory | ⟨name, before, hOpened, hEmpty⟩
  · refine ⟨by rw [hMemory]; rfl, fun place hPlace => ?_⟩
    rw [hMemory] at hPlace
    cases hPlace
  · obtain ⟨hReadable, -, hStands⟩ := Tree.openShard_eq_ok hOpened
    exact ⟨Shard.table?_eq_ok.2 ⟨hReadable, hEmpty⟩, hStands⟩

theorem Keeps.write {reply : Outcome Nat} {shard : Shard} (h : s.Keeps t)
    (hMade : s.shard.write interruption entries = (reply, shard)) :
    Keeps { s with shard := shard } (t.insertAll (Act.insertAll entries reply).written).1 := by
  cases reply with
  | error f =>
    obtain rfl := Shard.write_error h.table hMade
    exact h
  | ok n =>
    obtain ⟨rfl, -⟩ := Shard.write_eq_ok h.table hMade
    refine ⟨?_, fun place hPlace => ?_⟩
    · have hReadable := (Shard.table?_eq_ok.1 h.table).1
      exact Shard.table?_eq_ok.2 ⟨hReadable, rfl⟩
    · obtain ⟨hStands, hFile, hLeads⟩ := h.stands place hPlace
      exact ⟨hStands, hFile, hLeads⟩

theorem written_insert (e : Entry) (reply : Outcome Nat) :
    (Act.insert e (reply.map (· != 0))).written = (Act.insertAll [e] reply).written := by
  cases reply <;> rfl

theorem written_of_fails (h : a.Fails) : a.written = [] := by
  cases a with
  | insert e reply =>
    obtain ⟨f, rfl⟩ := h
    rfl
  | insertAll entries reply =>
    obtain ⟨f, rfl⟩ := h
    rfl
  | reopen => exact h.elim

theorem Keeps.ofStands {place : NodePath} (hStands : s.tree.Stands s.shard place)
    (hReadable : s.shard.obstacle = none) (hContent : s.shard.content = .table t) : s.Keeps t := by
  refine ⟨Shard.table?_eq_ok.2 ⟨hReadable, hContent⟩, fun place' hPlace => ?_⟩
  obtain rfl : place = place' := Option.some.inj (hStands.stands.symm.trans hPlace)
  exact hStands

/-- **What every act does to the table**: what it writes is written, and nothing else changes. -/
theorem Keeps.does (h : s.Keeps t) (hDoes : s.Does a s') :
    s'.Keeps (t.insertAll a.written).1 := by
  cases hDoes with
  | insert _ hMade =>
    rw [written_insert]
    exact h.write hMade
  | insertAll _ hMade => exact h.write hMade
  | reopen hPlace hSame hOpened =>
    -- the shard is read from the place where it has been saved
    obtain ⟨hReadable, hContent, hStands⟩ := (h.stands _ hPlace).openShard_again hSame
      (Shard.table?_eq_ok.1 h.table).2 hOpened
    exact .ofStands hStands hReadable hContent
  | reopenReadOnly hPlace hSame hOpened hReadable =>
    have hMode : OpenMode.read ≠ .memory := nofun
    obtain ⟨hContent, hStands⟩ := (h.stands _ hPlace).connect_again hSame hMode hOpened
    exact .ofStands hStands hReadable (hContent.trans (Shard.table?_eq_ok.1 h.table).2)

/-- **What a session leaves**: all that has been written, as if on one page. -/
theorem Keeps.runs (h : s.Keeps t) (hRuns : s.Runs acts s') :
    s'.Keeps (t.insertAll (acts.flatMap Act.written)).1 := by
  -- along the acts, with any table to start from: the first act leaves another one
  induction hRuns generalizing t with
  | nil => exact h
  | cons hDoes _ ih =>
    rw [List.flatMap_cons, Table.insertAll_append]
    exact ih (h.does hDoes)

/-- **A session that follows its writes**: its table holds the first writes, and every answer is
given by them. -/
structure Follows (s : ShardSession) (t : Table) (written : List Entry) : Prop where
  table : s.shard.table? = .ok t
  rows : List.Forall₂ Row.Holds t.rows (firstWrites written)
  scan : (∀ e ∈ written, IntegerRange.signed64.contains e.swap.timestamp = true) →
    s.shard.scan = (firstWrites written).map .ok
  count : s.shard.count = .ok (written.map Entry.key).toFinset.card
  earliest : ∃ earliest, s.shard.earliest? = .ok earliest ∧ (earliest = none ↔ t.rows = []) ∧
    ∀ time, earliest = some time ↔
      (∃ r ∈ t.rows, r.time = time) ∧ ∀ r ∈ t.rows, time ≤ r.time
  /-- A write is told as new if, and only if, the key is. -/
  insert : ∀ e isNew s', s.Does (.insert e (.ok isNew)) s' →
    (isNew = true ↔ e.key ∉ written.map Entry.key)
  /-- What a write of a page tells is the number of rows that it adds. -/
  insertAll : ∀ entries n s', s.Does (.insertAll entries (.ok n)) s' →
    s'.shard.count = .ok (t.count + n)
  failed : ∀ a s', a.Fails → s.Does a s' → s'.shard.table? = .ok t
  accepted : s.shard.writing.obstacle? = none →
    (∀ e, ∃ isNew s', s.Does (.insert e (.ok isNew)) s') ∧
      ∀ entries, ∃ n s', s.Does (.insertAll entries (.ok n)) s'
  /-- What has been written can be written again, and changes nothing. -/
  again : s.shard.writing ≠ .refused →
    (∀ e, e.key ∈ written.map Entry.key → s.shard.insert e = (.ok false, s.shard)) ∧
      ∀ entries, (∀ e ∈ entries, e.key ∈ written.map Entry.key) →
        s.shard.insertAll entries = (.ok 0, s.shard)

/-- The write of a page behind its reply. -/
theorem Does.of_insertAll {reply : Outcome Nat} (h : s.Does (.insertAll entries reply) s') :
    ∃ interruption, s.shard.write interruption entries = (reply, s'.shard) := by
  cases h with
  | insertAll interruption hMade => exact ⟨interruption, hMade⟩

/-- The write behind a reply that is no failure. -/
theorem Does.of_insert {e : Entry} {isNew : Bool} (h : s.Does (.insert e (.ok isNew)) s') :
    ∃ interruption n, s.shard.write interruption [e] = (.ok n, s'.shard) ∧ isNew = (n != 0) := by
  generalize hAct : Act.insert e (.ok isNew) = a at h
  cases h with
  | @insert _ reply _ interruption hMade =>
    obtain ⟨rfl, hReply⟩ := Act.insert.inj hAct
    cases reply with
    | error f => cases hReply
    | ok n => exact ⟨interruption, n, hMade, Except.ok.inj hReply⟩
  | _ => cases hAct

/-- A session that keeps what has been written follows it. -/
theorem Keeps.follows (h : s.Keeps t) (hTable : t = (Table.empty.insertAll written).1) :
    s.Follows t written where
  table := h.table
  rows := hTable ▸ Table.holds_firstWrites written
  scan hTimes := by
    have hNumbered : t.IsNumbered := hTable ▸ Table.isNumbered_written
    have hHolds := Table.holds_firstWrites written
    rw [← hTable] at hHolds
    rw [Shard.scan, h.table]
    exact Table.scan_of_holds hNumbered (by decide) hHolds
      fun e he => hTimes e (firstWrites_subset written he)
  count := by
    have hHolds := Table.holds_firstWrites written
    rw [← hTable] at hHolds
    have hCount : t.count = (written.map Entry.key).toFinset.card := by
      rw [← length_firstWrites, Table.count, hHolds.length_eq]
    rw [Shard.count, h.table, ← hCount]
    rfl
  earliest := by
    refine ⟨t.earliest?, ?_, Table.earliest?_eq_none, fun time => Table.earliest?_eq_some⟩
    rw [Shard.earliest?, h.table]
    rfl
  insert e isNew s' hDoes := by
    obtain ⟨_, n, hMade, rfl⟩ := hDoes.of_insert
    obtain ⟨-, rfl⟩ := Shard.write_eq_ok h.table hMade
    rw [← Table.contains_written, ← hTable, Table.insertAll_single]
    split
    · next hKnown => simp [hKnown]
    · next hAbsent => simp [hAbsent]
  insertAll entries n s' hDoes := by
    obtain ⟨_, hMade⟩ := hDoes.of_insertAll
    obtain ⟨-, hCount⟩ := Shard.write_eq_ok h.table hMade
    rw [Shard.count, (h.does hDoes).table, hCount, ← Table.count_insertAll]
    rfl
  failed a s' hFails hDoes := by
    have hAfter := (h.does hDoes).table
    rw [written_of_fails hFails] at hAfter
    exact hAfter
  accepted hWritable := by
    have hTaken : ∀ entries, ∃ n shard, s.shard.insertAll entries = (.ok n, shard) :=
      fun entries => ⟨_, _, Shard.insertAll_of_writable h.table hWritable⟩
    refine ⟨fun e => ?_, fun entries => ?_⟩
    · obtain ⟨n, shard, hMade⟩ := hTaken [e]
      exact ⟨n != 0, _, .insert none hMade⟩
    · obtain ⟨n, shard, hMade⟩ := hTaken entries
      exact ⟨n, _, .insertAll none hMade⟩
  -- Entries whose keys are there add nothing, so that the page counts zero.
  again hWriting := by
    have hPage : ∀ entries : List Entry, (∀ e ∈ entries, e.key ∈ written.map Entry.key) →
        s.shard.insertAll entries = (.ok 0, s.shard) := by
      intro entries hAll
      refine Shard.insertAll_of_contains h.table hWriting fun e he => ?_
      rw [hTable, Table.contains_written]
      exact hAll e he
    refine ⟨fun e he => ?_, hPage⟩
    rw [Shard.insert_eq, hPage [e] (by simpa using he)]
    rfl

/-- **A session that begins with an empty shard follows its writes**: those of its acts that
succeed, one page after the other. -/
theorem follows_first_writes (hNew : s.IsNew) (hRuns : s.Runs acts s') :
    ∃ t, s'.Follows t (acts.flatMap Act.written) :=
  ⟨_, (hNew.keeps.runs hRuns).follows rfl⟩

/-- A shard in a file: a page with a repeated key, a page that breaks, an entry that is there with
another time, and after the shard has been opened again a page with old keys and a new one. -/
theorem follows_first_writes_opened_again :
    let entry (key : String) (time : Int) : Entry :=
      ⟨key, { (default : Swap) with id := key, timestamp := time }, time⟩
    let opened := (Tree.empty ["work"]).openShard "day.db"
    let acts : List Act :=
      [.insertAll [entry "b" 9, entry "a" 8, entry "b" 7] (.ok 2),
        .insertAll [entry "c" 6] (.error (.database "disk I/O error")),
        .insert (entry "a" 5) (.ok false), .reopen,
        .insertAll [entry "b" 4, entry "d" 3] (.ok 1)]
    ∃ s s' : ShardSession, opened = (.ok s.shard, s.tree) ∧ s.IsNew ∧ s.Runs acts s' ∧
      s'.shard.place = some ["work", "day.db"] ∧
      (∃ t, s'.Follows t (acts.flatMap Act.written)) ∧
      firstWrites (acts.flatMap Act.written) = [entry "b" 9, entry "a" 8, entry "d" 3] := by
  intro entry opened acts
  let filled (table : Table) : ShardSession :=
    ⟨⟨["work"], [(["work", "day.db"], .file (.table .empty))]⟩,
      ⟨"day.db", some ["work", "day.db"], .journaled, .table table, none⟩⟩
  let first := (Table.empty.insertAll [entry "b" 9, entry "a" 8, entry "b" 7]).1
  let second := (first.insertAll [entry "b" 4, entry "d" 3]).1
  let again : ShardSession :=
    ⟨(filled first).tree.save (filled first).shard, (filled first).shard⟩
  have hOpened : opened = (.ok (filled .empty).shard, (filled .empty).tree) := by decide +kernel
  have hNew : (filled .empty).IsNew := .inr ⟨_, _, hOpened, rfl⟩
  have hAgain : again.tree.openShard "day.db" = (.ok again.shard, again.tree) := by decide +kernel
  have hPage : (filled .empty).Does (.insertAll [entry "b" 9, entry "a" 8, entry "b" 7] (.ok 2))
      (filled first) := .insertAll none (by decide +kernel)
  have hBroken : (filled first).Does
      (.insertAll [entry "c" 6] (.error (.database "disk I/O error"))) (filled first) :=
    .insertAll (some ⟨1, .database "disk I/O error"⟩) (by decide +kernel)
  have hKnown : (filled first).Does (.insert (entry "a" 5) (.ok false)) (filled first) :=
    @Does.insert _ _ (.ok 0) _ none (by decide +kernel)
  have hReopened : (filled first).Does .reopen again := .reopen rfl .refl hAgain
  have hRuns : (filled .empty).Runs acts
      { again with shard := { again.shard with content := .table second } } :=
    .cons hPage <| .cons hBroken <| .cons hKnown <| .cons hReopened <|
      .cons (.insertAll none (by decide +kernel)) .nil
  exact ⟨_, _, hOpened, hNew, hRuns, rfl, follows_first_writes hNew hRuns, by decide +kernel⟩

end ShardSession
end SwapArchive
