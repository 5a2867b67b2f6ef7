import Mathlib.Data.Set.List
import SwapArchive.Proofs.Fetch.Course
import SwapArchive.Proofs.Series.Trades
import SwapArchive.Proofs.Source.Client
import SwapArchive.Series.Shards

/-!
# What is validated stays valid

A run validates every swap before it writes it. A stored row is therefore the row of a valid swap:
it is read back, the swap is not rejected for its amounts, and a series passes over no row.
-/

namespace SwapArchive

open Text (IntegerRange)

/-! ## Valid swaps -/

theorem isFinite_of_readAmount {field text : String} {amount : Float}
    (h : readAmount field text = .ok amount) : amount.isFinite = true := by
  unfold readAmount at h
  split at h
  · cases h
  · split at h
    · next hFinite =>
      cases h
      exact hFinite
    · cases h

namespace Swap

/-- **What validation makes sure of.** -/
structure Sound (x : Swap) : Prop where
  id : x.id ≠ ""
  address0 : x.pool.token0.address ≠ ""
  address1 : x.pool.token1.address ≠ ""
  time : 0 ≤ x.timestamp
  flow0 : ∃ amount, x.flow0 = .ok amount ∧ amount.isFinite = true
  flow1 : ∃ amount, x.flow1 = .ok amount ∧ amount.isFinite = true

variable {x : Swap}

theorem sound_of_validate (h : x.validate = .ok ()) : x.Sound := by
  -- Each test that passed leaves one of the facts.
  unfold validate at h
  split at h
  · cases h
  next hId =>
  split at h
  · cases h
  next hLegs =>
  split at h
  · cases h
  next hTime =>
  rw [Bool.or_eq_true, not_or, String.isEmpty_iff, String.isEmpty_iff] at hLegs
  split at h
  · cases h
  · cases h
  · next amount0 amount1 hFlow0 hFlow1 =>
    exact
      { id := by simpa [String.isEmpty_iff] using hId
        address0 := hLegs.1
        address1 := hLegs.2
        time := Int.not_lt.1 hTime
        flow0 := ⟨amount0, hFlow0, isFinite_of_readAmount hFlow0⟩
        flow1 := ⟨amount1, hFlow1, isFinite_of_readAmount hFlow1⟩ }

/-- No valid swap is rejected for its amounts. -/
theorem Sound.classify_ne_unparsable (h : x.Sound) (pair : Pair) (key : String) (time : Int) :
    pair.classify ⟨key, x, time⟩ ≠ .error .unparsable := by
  obtain ⟨amount0, hFlow0, -⟩ := h.flow0
  obtain ⟨amount1, hFlow1, -⟩ := h.flow1
  have hFlows : Pair.flows x = .ok (amount0, amount1) := by rw [Pair.flows, hFlow0, hFlow1]
  -- With both amounts read, a trade is refused for a zero or a wrong direction only.
  have hTrade : ∀ base quote, pair.trade base quote time ≠ .error .unparsable := by
    intro base quote
    unfold Pair.trade
    split <;> nofun
  unfold Pair.classify
  rw [hFlows]
  dsimp only
  split
  · nofun
  · split
    · nofun
    · next baseFirst _ =>
      cases baseFirst with
      | true => exact hTrade amount0 amount1
      | false => exact hTrade amount1 amount0

end Swap

/-! ## Sound tables -/

namespace Table

/-- **A sound table**: every row holds a valid swap under its own id and time. -/
structure IsSound (t : Table) : Prop where
  numbered : t.IsNumbered
  holds : ∀ r ∈ t.rows, ∃ x : Swap, r.Holds x.entry ∧ x.Sound ∧
    IntegerRange.signed64.contains x.timestamp = true

variable {t : Table} {entries : List Entry}

theorem isSound_empty : Table.empty.IsSound := ⟨isNumbered_empty, nofun⟩

/-- A write of valid swaps leaves a sound table sound. -/
theorem IsSound.insertAll (h : t.IsSound) (hEntries : ∀ e ∈ entries, ∃ x : Swap, x.entry = e ∧
      x.Sound ∧ IntegerRange.signed64.contains x.timestamp = true) :
    (t.insertAll entries).1.IsSound := by
  refine ⟨?_, fun r hr => ?_⟩
  · rw [insertAll_eq]
    exact isNumbered_putAll h.numbered _
  · obtain ⟨added, hRows, hHolds⟩ := holds_of_insertAll t entries
    rw [hRows, List.mem_append] at hr
    rcases hr with hOld | hNew
    · exact h.holds r hOld
    · obtain ⟨e, he, hRow⟩ := hHolds r hNew
      obtain ⟨x, rfl, hx⟩ := hEntries e he
      exact ⟨x, hRow, hx⟩

/-- A sound table is read as valid swaps, each under its own id and time. -/
theorem IsSound.exists_swaps (h : t.IsSound) :
    ∃ swaps : List Swap, t.entries = swaps.map (fun x => .ok x.entry) ∧ ∀ x ∈ swaps, x.Sound := by
  obtain ⟨swaps, hSwaps⟩ : t.entries ∈ Set.range
      (List.map fun x : { x : Swap // x.Sound } => (.ok x.1.entry : Outcome Entry)) := by
    rw [Set.range_list_map]
    intro row hRow
    obtain ⟨r, hr, rfl⟩ := List.mem_map.1 hRow
    obtain ⟨x, hHolds, hSound, hTime⟩ := h.holds r hr
    exact ⟨⟨x, hSound⟩, (hHolds.entry_eq hTime).symm⟩
  refine ⟨swaps.map Subtype.val, ?_, fun x hx => ?_⟩
  · rw [← hSwaps, List.map_map]
    rfl
  · obtain ⟨y, -, rfl⟩ := List.mem_map.1 hx
    exact y.2

/-- The swaps of a sound table can be read, whatever the shard is called. -/
theorem IsSound.legible (h : t.IsSound) (label : String) : Legible [⟨label, t.entries⟩] := by
  obtain ⟨swaps, hEntries, -⟩ := h.exists_swaps
  exact legible_swaps ((List.append_nil _).trans hEntries)

/-- **The series of a sound table**: no row is passed over, and no swap is rejected for its
amounts. -/
theorem IsSound.aggregate {pair : Pair} {window : Nat} {m : Machine} {label : String}
    {series : Series} (h : t.IsSound)
    (hSeries : ((Aggregator.ofPair pair window).aggregate m [⟨label, t.entries⟩]).1 = .ok series) :
    series.unreadable = 0 ∧ series.tally.unparsable = 0 ∧ series.tally.total = t.count := by
  obtain ⟨swaps, hEntries, hSound⟩ := h.exists_swaps
  have hRows : [(⟨label, t.entries⟩ : ShardRows)].flatMap (·.rows)
      = swaps.map fun x => .ok x.entry := (List.append_nil _).trans hEntries
  obtain ⟨-, hUnreadable, hTally⟩ :=
    (Aggregator.aggregate_swaps pair window m hRows).2 series hSeries
  refine ⟨hUnreadable, ?_, ?_⟩
  · -- Every stored swap has readable amounts, so no row is counted unparsable.
    rw [hTally]
    show (swaps.map Swap.entry).countP (pair.rejects .unparsable) = 0
    rw [List.countP_eq_zero]
    intro e he
    obtain ⟨x, hx, rfl⟩ := List.mem_map.1 he
    have hClass := (hSound x hx).classify_ne_unparsable pair x.id x.timestamp
    unfold Pair.rejects
    split
    · exact Bool.false_ne_true
    · next reason hReason =>
      rw [decide_eq_true_eq]
      rintro rfl
      exact hClass hReason
  · have hLength := congrArg List.length hEntries
    rw [entries, List.length_map, List.length_map] at hLength
    rw [hTally, Pair.tallyOf, List.length_map, ← hLength, count]

/-- A shard with a sound table yields the rows of the table. -/
theorem IsSound.rows_eq (h : t.IsSound) {shard : Shard} (hTable : shard.table? = .ok t) :
    shard.rows = ⟨shard.label, t.entries⟩ := by
  rw [Shard.rows, Shard.scan, hTable]
  exact congrArg _ (Table.scan_eq_entries h.numbered (by decide))

end Table

/-! ## Runs -/

namespace Fetch

variable {σ : Type} {source : Source σ} {clip : Bool} {s s' : State σ}

/-- **A run with times of 64 bits**, whatever else it is answered. -/
def Timed (source : Source σ) (clip : Bool) (s : State σ) : Prop :=
  ∀ t page, Passes source clip s t → (t.ask source).reply = .ok page → AllTimed page

theorem timed_ofHistory {history : List Swap} {pageSize : Nat} {s : State Unit}
    (h : AllTimed history) : Timed (.ofHistory history pageSize) clip s := by
  intro t page _ hReply x hx
  obtain rfl := Except.ok.inj hReply
  exact h x (List.mem_filter.1 (List.mem_of_mem_take hx)).1

/-- The swaps of a client have times of 64 bits, whatever it is replied. -/
theorem timed_client (client : Client) (draw : Nat → UInt64) (clip : Bool) (s : State Endpoint) :
    Timed (client.source draw) clip s :=
  fun _ _ _ hReply => Client.allTimed_fetch hReply

theorem sound_step {notices : List Notice} (hTimed : Timed source clip s)
    (h : s.medium.table.IsSound) (hStep : step source clip s = ⟨notices, s', none⟩) :
    s'.medium.table.IsSound := by
  obtain ⟨page, first, rest, inserted, -, hReply, hEntries, hWrite, rfl⟩ := step_continues hStep
  obtain ⟨hValid, hPage⟩ := entriesOf_eq_ok hEntries
  rw [State.table_written source hWrite]
  refine h.insertAll fun e he => ?_
  have hOnPage : e ∈ first :: rest := (mem_kept.1 he).1
  rw [hPage] at hOnPage
  obtain ⟨x, hx, rfl⟩ := List.mem_map.1 hOnPage
  exact ⟨x, rfl, Swap.sound_of_validate (hValid x hx), hTimed _ page .here hReply x hx⟩

/-- **A run leaves a sound table sound.** -/
theorem sound_walk (hTimed : Timed source clip s) (h : s.medium.table.IsSound) :
    (walk source clip s).state.medium.table.IsSound := by
  obtain ⟨last, notices, hPasses, hLast⟩ := walk_ends source clip s
  rw [(step_stop hLast).2.1]
  -- what is left of a run is timed too, so both are preserved at once
  refine (hPasses.preserves (P := fun s => Timed source clip s ∧ s.medium.table.IsSound)
    (fun hBefore hStep => ?_) ⟨hTimed, h⟩).2
  refine ⟨fun t page hRest => hBefore.1 t page (.next hStep hRest), ?_⟩
  exact sound_step hBefore.1 hBefore.2 hStep

/-- **A filled table**: runs have written to it, from any sources, and some of them may have
failed. -/
inductive Filled : Table → Prop
  | empty : Filled .empty
  | run {σ : Type} {source : Source σ} {clip : Bool} {start : Cursor} {medium : Medium} {state : σ}
      (h : Filled medium.table) (hTimed : Timed source clip ⟨start, {}, medium, state⟩) :
      Filled (run source clip start medium state).medium.table

/-- Any run of a client fills a table. -/
theorem Filled.run_client {client : Client} {draw : Nat → UInt64} {start : Cursor} {medium : Medium}
    {endpoint : Endpoint} (h : Filled medium.table) :
    Filled (Fetch.run (client.source draw) clip start medium endpoint).medium.table :=
  .run h (timed_client client draw clip _)

theorem Filled.sound {t : Table} (h : Filled t) : t.IsSound := by
  induction h with
  | empty => exact Table.isSound_empty
  | run _ hTimed ih => exact sound_walk hTimed ih

/-- **What is validated stays valid.** Every row of a filled table is read as a valid swap, which is
stored under its own id and time. A series of the table passes over no row, rejects no swap for its
amounts, and counts every row. It is made unless the machine cannot reserve the window or find the
medians of the prices. -/
theorem validated_stays_valid {t : Table} (h : Filled t) :
    (∀ r ∈ t.rows, ∃ x : Swap, Swap.ofText r.text = .ok x ∧ r.key = x.id ∧
      r.time = x.timestamp ∧ x.Sound) ∧
    ∀ (pair : Pair) (window : Nat) (m : Machine) (shard : Shard), shard.table? = .ok t →
      let made := ((Aggregator.ofPair pair window).aggregate m [shard.rows]).1
      Aggregator.Ends m (pair.pricesOf [shard.rows]) window made ∧
      ∀ series, made = .ok series → series.unreadable = 0 ∧ series.tally.unparsable = 0 ∧
        shard.count = .ok series.tally.total := by
  have hSound := h.sound
  refine ⟨fun r hr => ?_, fun pair window m shard hTable => ?_⟩
  · obtain ⟨x, hHolds, hx, hTime⟩ := hSound.holds r hr
    refine ⟨x, ?_, hHolds.key, hHolds.time, hx⟩
    rw [hHolds.text]
    exact Swap.ofText_stored x hTime
  · rw [hSound.rows_eq hTable]
    refine ⟨Aggregator.ends_of_legible pair m window (hSound.legible _), fun series hSeries => ?_⟩
    obtain ⟨hUnreadable, hUnparsable, hTotal⟩ := hSound.aggregate hSeries
    refine ⟨hUnreadable, hUnparsable, ?_⟩
    rw [Shard.count, hTable, hTotal]
    rfl

/-- A run that fails at a swap without an id, and a second one from another source, which finds a
swap that it knows and one of which nothing changed hands. -/
theorem validated_stays_valid_after_failure :
    let history : List Swap := [.sample "b" 9, .sample "a" 8, .sample "c" 7, .sample "" 6]
    let others : List Swap := [.sample "c" 7, { Swap.sample "d" 4 with amount0 := "-0.0" }]
    let failed := run (.ofHistory history 2) false ⟨10, 0⟩ (.ofTable .empty) ()
    let done := run (.ofHistory others 2) true ⟨10, 3⟩ failed.medium ()
    let shard : Shard := { Shard.inMemory with content := .table done.medium.table }
    let pair : Pair := ⟨"0x04", "0x03", .quotePerBase⟩
    failed.report.reason = .sourceFailed "Malformed response: swap without id" ∧
      Filled done.medium.table ∧
      ∃ series, ((Aggregator.ofPair pair 8).aggregate (.ordering 64) [shard.rows]).1
          = .ok series ∧
        series.unreadable = 0 ∧ series.tally.unparsable = 0 ∧ series.tally.total = 4 := by
  intro history others failed done shard pair
  have hTimed : ∀ x ∈ history ++ others,
      IntegerRange.signed64.contains x.timestamp = true := by decide
  have hFailed : Filled failed.medium.table := .run .empty <| timed_ofHistory
    fun x hx => hTimed x (List.mem_append_left _ hx)
  have hDone : Filled done.medium.table := .run hFailed <| timed_ofHistory
    fun x hx => hTimed x (List.mem_append_right _ hx)
  obtain ⟨hEnds, hMade⟩ := (validated_stays_valid hDone).2 pair 8 (.ordering 64) shard rfl
  have hShort : (pair.pricesOf [shard.rows]).length < 8 :=
    (pair.length_pricesOf_le _).trans_lt (by decide +kernel)
  obtain ⟨series, hSeries⟩ := hEnds.made
    (.of_short (by decide +kernel) (Machine.findsMedians_ordering 64) hShort)
  obtain ⟨hUnreadable, hUnparsable, hCount⟩ := hMade series hSeries
  have hFour : shard.count = .ok 4 := by decide +kernel
  refine ⟨by decide +kernel, hDone, series, hSeries, hUnreadable, hUnparsable, ?_⟩
  exact Except.ok.inj (hCount.symm.trans hFour)

/-- No series is made of a filled table with a window that no machine can reserve. -/
theorem validated_stays_valid_unreserved :
    let filled := run (.ofHistory [.sample "a" 7] 2) false ⟨10, 0⟩ (.ofTable .empty) ()
    let shard : Shard := { Shard.inMemory with content := .table filled.medium.table }
    let pair : Pair := ⟨"0x04", "0x03", .quotePerBase⟩
    Filled filled.medium.table ∧ filled.report.reason.isError = false ∧ ∀ m : Machine,
      ((Aggregator.ofPair pair (2 ^ 60)).aggregate m [shard.rows]).1
        = .error (.crashed .capacity) := by
  intro filled shard pair
  have hFilled : Filled filled.medium.table := .run .empty <| timed_ofHistory (by decide)
  refine ⟨hFilled, by decide +kernel, fun m => ?_⟩
  have hTable : shard.table? = .ok filled.medium.table := rfl
  rw [hFilled.sound.rows_eq hTable]
  exact (Aggregator.ends_of_legible pair m _ (hFilled.sound.legible _)).full (Nat.le_refl _)

end Fetch
end SwapArchive
