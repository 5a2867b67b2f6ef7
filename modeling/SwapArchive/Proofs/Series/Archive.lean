import SwapArchive.Proofs.Series.Trades
import SwapArchive.Proofs.Shard.Complete
import SwapArchive.Proofs.Shard.Listing

/-!
# From the source to the series

Once the days since a time have been synced, the series that is built from the directory holds
exactly the trades of the swaps of these days, as if they had been taken from the history itself.
Days are read in the order of their names. That does not matter, because all swaps of one second
are in one day.
-/

namespace SwapArchive

variable {history : List Swap} {d first : Day} {days : List Day} {initial now second : Int}

theorem Day.mem_seconds : d.start ≤ second ∧ second ≤ d.finish ↔ d = Day.ofTime second := by
  rw [Day.eq_iff]
  simp only [finish, start, ofTime, secondsPerDay]
  omega

/-- What stands once among others, put together with nothing for the others. -/
private theorem flatMap_single {α β : Type} [DecidableEq α] {as : List α} {a : α} {bs : List β}
    (h : as.Nodup) :
    (as.flatMap fun x => if x = a then bs else []) = if a ∈ as then bs else [] := by
  induction as with
  | nil => rfl
  | cons x as ih =>
    rw [List.nodup_cons] at h
    rw [List.flatMap_cons, ih h.2]
    by_cases hSame : x = a
    · subst hSame
      simp [h.1]
    · simp [hSame, Ne.symm hSame]

/-- The swaps of a second, in a day. -/
theorem Day.filter_swapsOf (history : List Swap) (d : Day) (second : Int) :
    (d.swapsOf history).filter (·.timestamp = second)
      = if d = Day.ofTime second then history.filter (·.timestamp = second) else [] := by
  rw [swapsOf, List.filter_filter]
  split
  · next hDay =>
    refine List.filter_congr fun x _ => ?_
    by_cases hSecond : x.timestamp = second
    · simp [hSecond, mem_seconds.2 hDay]
    · simp [hSecond]
  · next hOther =>
    rw [List.filter_eq_nil_iff]
    intro x _ hBoth
    simp only [Bool.and_eq_true, decide_eq_true_eq] at hBoth
    obtain ⟨rfl, hSeconds⟩ := hBoth
    exact hOther (mem_seconds.1 hSeconds)

/-- **Days that are put together** hold the swaps of each second as the history does. -/
theorem filter_flatMap_swapsOf (hNodup : days.Nodup)
    (hDays : ∀ e, e ∈ days ↔ first.number ≤ e.number ∧ e.number < d.number) (second : Int) :
    (days.flatMap (Day.swapsOf history)).filter (·.timestamp = second)
      = (history.filter fun x => first.start ≤ x.timestamp ∧ x.timestamp < d.start).filter
          (·.timestamp = second) := by
  rw [List.filter_flatMap]
  simp only [Day.filter_swapsOf]
  -- A second lies in one day, so at most one of the parts has swaps of it.
  rw [flatMap_single hNodup, List.filter_filter]
  have hRange : Day.ofTime second ∈ days ↔ first.start ≤ second ∧ second < d.start := by
    rw [hDays]
    simp only [Day.ofTime, Day.start, secondsPerDay]
    omega
  split
  · next hMem =>
    refine List.filter_congr fun x _ => ?_
    by_cases hSecond : x.timestamp = second
    · simp [hSecond, hRange.1 hMem]
    · simp [hSecond]
  · next hOther =>
    symm
    rw [List.filter_eq_nil_iff]
    intro x _ hBoth
    simp only [Bool.and_eq_true, decide_eq_true_eq] at hBoth
    obtain ⟨rfl, hSeconds⟩ := hBoth
    exact hOther (hRange.2 hSeconds)

namespace Sync

variable {σ : Type} {source : Source σ} {directory : String} {place : NodePath} {s t u : State σ}
  {outcomes : List (Day × DayOutcome)}

/-- **From the source to the series.** Syncs since a time are repeated, whatever fails, until one
of them leaves no day incomplete. The directory can be opened then, and a series of it holds the
trades of all swaps from the first day to the last one before the present, in order of time. There
is one unless the rolling deviation of their prices crashes. -/
theorem aggregate_synced (hFeeds : source.Feeds history)
    (hAddress : directory.startsWith Address.scheme = false)
    (hLeads : s.tree.find directory = .ok (.present place .directory))
    (hEmpty : ∀ p, place <+: p → p ≠ place → s.tree.node? p = none)
    (hFirst : Day.ofTime? initial = some first) (hNow : now ≤ lastTime)
    (hRepeated : Repeated source directory initial now s t) (hTree : u.tree = t.tree)
    (hReturned : (syncSince source directory initial now u).outcome = .ok outcomes)
    (hComplete : ∀ entry ∈ outcomes, entry.2.isIncomplete = false) :
    let synced := (syncSince source directory initial now u).state.tree
    let swaps := history.filter fun x =>
      first.start ≤ x.timestamp ∧ x.timestamp < (Day.ofTime now).start
    ∃ shards, (synced.openShards directory).1 = .ok shards ∧
      ∀ (pair : Pair) (window : Nat) (m : Machine),
        let trades := inOrder (pair.tradesOf swaps)
        let made := ((Aggregator.ofPair pair window).aggregate m (shards.map Shard.rows)).1
        Aggregator.Ends m (trades.map (·.price)) window made ∧
          ∀ series, made = .ok series → series.trades = trades ∧ series.unreadable = 0 ∧
            series.tally.total = swaps.length := by
  intro synced swaps
  obtain ⟨hFiles, hFinal⟩ := hRepeated.final_iff hFeeds hAddress hNow hLeads hEmpty hTree hReturned
    hComplete
  obtain ⟨days, shards, hShards, hNodup, hDays, hRows⟩ := hFiles.openShards hAddress
  have hPlanned : ∀ e, e ∈ days ↔ first.number ≤ e.number ∧ e.number < (Day.ofTime now).number := by
    intro e
    rw [hDays, hFinal, mem_planDays hFirst]
  -- The days come in the order of their names, which need not be that of time, and each of them the
  -- newest swap first. So the order of the history is kept within a second only.
  have hSeconds (second : Int) : (days.flatMap (Day.swapsOf history)).filter (·.timestamp = second)
      = swaps.filter (·.timestamp = second) := filter_flatMap_swapsOf hNodup hPlanned second
  have hAll : (shards.map Shard.rows).flatMap (·.rows)
      = (days.flatMap (Day.swapsOf history)).map fun x => .ok x.entry := by
    rw [List.flatMap_map, List.flatMap_def, hRows, ← List.flatMap_def, List.map_flatMap]
  refine ⟨shards, hShards, fun pair window m => ?_⟩
  have hMerged : inOrder (pair.tradesOf (days.flatMap (Day.swapsOf history)))
      = inOrder (pair.tradesOf swaps) := by
    refine mergeSort_congr Trade.timestamp fun second => ?_
    rw [Pair.filter_tradesOf, Pair.filter_tradesOf, hSeconds]
  obtain ⟨hEnds, hMade⟩ := Aggregator.aggregate_swaps pair window m hAll
  rw [hMerged] at hEnds
  refine ⟨hEnds, fun series hSeries => ?_⟩
  obtain ⟨hTrades, hUnreadable, hTally⟩ := hMade series hSeries
  refine ⟨hTrades.trans hMerged, hUnreadable, ?_⟩
  rw [hTally, Pair.tallyOf, List.length_map]
  exact length_congr Swap.timestamp hSeconds

/-- A day that is synced in two calls, because the first one fails after a page. -/
theorem aggregate_synced_resumed :
    let first : Day := ⟨19359⟩
    let now := first.finish + 1
    let history : List Swap := [.sample "a" (first.start + 9), .sample "b" first.start]
    let source := (Source.ofHistory history 1).failing fun number =>
      if number = 1 then some (.transport "connection reset") else none
    let s : State (Nat × Unit) := ⟨.ofDirectories [["D"]], (0, ()), 0, fun _ => none⟩
    let failed := (syncSince source "D" first.start now s).state
    let synced := (syncSince source "D" first.start now failed).state.tree
    let pair : Pair := ⟨"0x04", "0x03", .quotePerBase⟩
    let m := Machine.ordering 64
    ∃ shards, (synced.openShards "D").1 = .ok shards ∧
      ∃ series, ((Aggregator.ofPair pair 1).aggregate m (shards.map Shard.rows)).1 = .ok series ∧
        series.trades = inOrder (pair.tradesOf history) ∧ series.unreadable = 0 ∧
        series.tally.total = 2 := by
  intro first now history source s failed synced pair m
  have hValid : ∀ x ∈ history, x.validate = .ok () := by
    simp only [history, List.forall_mem_cons]
    refine ⟨?_, ?_, by simp⟩ <;> exact Swap.validate_sample rfl (by decide)
  have hFeeds : source.Feeds history := .ofStrict (by decide)
    ((Source.servesInOrder_ofHistory history 1).failing _) (by decide) hValid (by decide)
  have hLeads : s.tree.find "D" = .ok (.present ["D"] .directory) := by decide +kernel
  have hEnds : (match (syncSince source "D" first.start now failed).outcome with
      | .ok outcomes => outcomes.all fun entry => !entry.2.isIncomplete
      | .error _ => false) = true := by decide +kernel
  cases hReturned : (syncSince source "D" first.start now failed).outcome with
  | error f =>
    rw [hReturned] at hEnds
    cases hEnds
  | ok outcomes =>
    rw [hReturned] at hEnds
    have hComplete : ∀ entry ∈ outcomes, entry.2.isIncomplete = false := by simpa using hEnds
    have hRange : (history.filter fun x =>
        first.start ≤ x.timestamp ∧ x.timestamp < (Day.ofTime now).start) = history := by
      decide +kernel
    have hRepeated : Repeated source "D" first.start now s failed := .again .start rfl
    have hFirst : Day.ofTime? first.start = some first := by decide
    obtain ⟨shards, hShards, hCall⟩ := aggregate_synced hFeeds (by decide +kernel) hLeads
      (Tree.free_ofDirectories (by decide) (by decide)) hFirst (by decide) hRepeated rfl hReturned
      hComplete
    rw [hRange] at hCall
    obtain ⟨hCallEnds, hMade⟩ := hCall pair 1 m
    have hFinite : ∀ t ∈ pair.tradesOf history, t.price.isFinite = true := by decide +kernel
    obtain ⟨series, hSeries⟩ := hCallEnds.made_of_finite (by decide +kernel)
      (Machine.findsMedians_ordering 64) (isFinite_of_inOrder hFinite)
    exact ⟨shards, hShards, series, hSeries, hMade series hSeries⟩

/-- A directory whose path is taken for an address by the database, where the final file of the day
is opened instead of the temporary one. After a call that has failed half way the day counts as
complete, and the series lacks a swap. -/
theorem address_loses_swaps :
    let directory := "file:D%2f2023-01-02.db?/../D"
    let first : Day := ⟨19359⟩
    let now := first.finish + 1
    let history : List Swap := [.sample "a" (first.start + 9), .sample "b" first.start]
    let source := (Source.ofHistory history 1).failing fun number =>
      if number = 1 then some (.transport "connection reset") else none
    let s : State (Nat × Unit) :=
      ⟨.ofDirectories [["D"], ["file:D%2f2023-01-02.db?"]], (0, ()), 0, fun _ => none⟩
    let failed := (syncSince source directory first.start now s).state
    let last := syncSince source directory first.start now failed
    let pair : Pair := ⟨"0x04", "0x03", .quotePerBase⟩
    source.Feeds history ∧ s.tree.find directory = .ok (.present ["D"] .directory) ∧
      (∀ p, ["D"] <+: p → p ≠ ["D"] → s.tree.node? p = none) ∧
      Repeated source directory first.start now s failed ∧
      last.outcome.toOption = some [(first, .skipped)] ∧
      ((last.state.tree.openShards directory).1.toOption.map fun shards =>
        ((Aggregator.ofPair pair 1).aggregate (.ordering 64) (shards.map Shard.rows)).1.toOption.map
          (·.tally.total)) = some (some 1) ∧
      (history.filter fun x =>
        first.start ≤ x.timestamp ∧ x.timestamp < (Day.ofTime now).start).length = 2 := by
  intro directory first now history source s failed last pair
  have hValid : ∀ x ∈ history, x.validate = .ok () := by
    simp only [history, List.forall_mem_cons]
    refine ⟨?_, ?_, by simp⟩ <;> exact Swap.validate_sample rfl (by decide)
  have hFeeds : source.Feeds history := .ofStrict (by decide)
    ((Source.servesInOrder_ofHistory history 1).failing _) (by decide) hValid (by decide)
  exact ⟨hFeeds, by decide +kernel, Tree.free_ofDirectories (by decide) (by decide),
    .again .start rfl, by decide +kernel, by decide +kernel, by decide +kernel⟩

end Sync
end SwapArchive
