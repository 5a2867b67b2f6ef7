import SwapArchive.Proofs.Series.Trades

/-!
# Calls of an aggregator

The series of shards is told by the swaps in them: the trades in order of time, ties as they were
read, and every swap counted once. Rows that are no swaps change nothing else than their number.

A call that succeeds leaves the tally empty. A call that fails half way through a shard leaves the
counts of this shard there, and they turn up in the next series.
-/

namespace SwapArchive

theorem length_entriesIn (rows : List (Outcome Entry)) :
    (entriesIn rows).length = rows.countP Except.isOk := by
  rw [entriesIn, List.length_filterMap_eq_countP]
  congr 1
  funext row
  cases row <;> rfl

namespace Aggregator

variable {pair : Pair} {window : Nat} {m : Machine} {shards : List ShardRows}
  {calls : List (List ShardRows)}

/-- **The series of shards that can be read.** A call on them makes one unless the rolling deviation
of the prices crashes. Its trades are those of the swaps in the shards, in order of time, and those
of one second in the order in which they were read. Every swap is counted once in the tally, and
every other row among the unreadable ones. Shards with the same swaps, and other rows between them,
differ in the number of these rows only. -/
theorem aggregate_legible (pair : Pair) (window : Nat) (m : Machine) (shards : List ShardRows)
    (hLegible : Legible shards) :
    let rows := shards.flatMap (·.rows)
    let kept := pair.keptOf (entriesIn rows)
    let made := ((ofPair pair window).aggregate m shards).1
    Ends m ((inOrder kept).map (·.price)) window made ∧
      (∀ series, made = .ok series →
        series.trades.Perm kept ∧
        (series.trades.Pairwise fun a b => a.timestamp ≤ b.timestamp) ∧
        (∀ second, series.trades.filter (·.timestamp = second)
          = kept.filter (·.timestamp = second)) ∧
        series.deviations.length = series.trades.length ∧
        series.unreadable = rows.countP isUnreadable ∧
        series.tally.total = rows.countP Except.isOk ∧
        series.tally.kept = series.trades.length ∧
        series.tally.kept + series.tally.selfTrades + series.tally.wrongPair
            + series.tally.unparsable + series.tally.zeroFlow = series.tally.total) ∧
      ∀ others, Legible others → entriesIn (others.flatMap (·.rows)) = entriesIn rows →
        ((ofPair pair window).aggregate m others).1 = made.map fun series =>
          { series with unreadable := (others.flatMap (·.rows)).countP isUnreadable } := by
  intro rows kept made
  refine ⟨ends_of_legible pair m window hLegible, ?_, ?_⟩
  · rintro series hSeries
    obtain ⟨-, deviations, hDeviations, rfl⟩ := aggregate_eq_ok.1 hSeries
    have hLength := (rollingDeviation_eq_ok.1 hDeviations).2.1
    exact ⟨List.mergeSort_perm _ _, sorted_mergeSort _ _, filter_mergeSort Trade.timestamp kept,
      hLength.trans (List.length_map _), rfl, length_entriesIn rows,
      (List.mergeSort_perm kept _).length_eq.symm, Pair.balanced_tallyOf⟩
  · -- The entries alone decide on trades and deviations, so shards that share them differ in
    -- nothing but the count of unreadable rows.
    intro others hOthers hSame
    have hMerged : pair.mergedOf others = pair.mergedOf shards := by
      rw [Pair.mergedOf, hSame]
      rfl
    simp only [made, aggregate_ofPair, Pair.outcomeOf, hOthers.failure?_eq_none,
      hLegible.failure?_eq_none, Pair.pricesOf, Pair.seriesOf, hMerged, hSame]
    split <;> rfl

/-- Two shards with trades of one second, a swap that is none, and rows that cannot be read. -/
theorem aggregate_legible_ties :
    let pair : Pair := ⟨"0x04", "0x03", .quotePerBase⟩
    let entry (id amount : String) (time : Int) : Outcome Entry :=
      .ok ⟨id, { Swap.sample id time with amount0 := amount }, time⟩
    let torn : Outcome Entry := .error (.data "EOF while parsing a value at line 1 column 0")
    let shards : List ShardRows := [⟨"2023-01-02", [entry "a" "-2000" 7, torn, entry "c" "5" 3]⟩,
      ⟨"2023-01-01", [entry "b" "-1000" 7, entry "z" "0" 7]⟩]
    let others : List ShardRows := [⟨"2023-01-02", [entry "a" "-2000" 7, entry "c" "5" 3]⟩,
      ⟨"2023-01-01", [torn, entry "b" "-1000" 7, torn, entry "z" "0" 7, torn]⟩]
    let m := Machine.ordering 64
    ∃ series, ((ofPair pair 2).aggregate m shards).1 = .ok series ∧
      (series.trades.filter (·.timestamp = 7)).map (·.price) = [2000.0, 1000.0] ∧
      series.unreadable = 1 ∧ series.tally.total = 4 ∧
      ((ofPair pair 2).aggregate m others).1 = .ok { series with unreadable := 3 } := by
  intro pair entry torn shards others m
  have hShards : Legible shards := by
    simp [Legible, shards, entry, torn]
  have hOthers : Legible others := by
    simp [Legible, others, entry, torn]
  obtain ⟨hEnds, hMade, hRows⟩ := aggregate_legible pair 2 m shards hShards
  have hFinite : ∀ t ∈ pair.keptOf (entriesIn (shards.flatMap (·.rows))),
      t.price.isFinite = true := by
    decide +kernel
  obtain ⟨series, hSeries⟩ := hEnds.made_of_finite (by decide +kernel)
    (Machine.findsMedians_ordering 64) (isFinite_of_inOrder hFinite)
  obtain ⟨-, -, hTies, -, hUnreadable, hTotal, -⟩ := hMade series hSeries
  refine ⟨series, hSeries, ?_, hUnreadable, hTotal, ?_⟩
  · rw [hTies]
    decide +kernel
  · rw [hRows others hOthers rfl, hSeries]
    rfl

/-- A window that no machine can reserve makes no series of a trade. -/
theorem aggregate_legible_unreserved :
    let shards : List ShardRows := [⟨"2023-01-01", [.ok ⟨"a", .sample "a" 7, 7⟩]⟩]
    Legible shards ∧ ∀ m : Machine,
      ((ofPair ⟨"0x04", "0x03", .quotePerBase⟩ (2 ^ 60)).aggregate m shards).1
        = .error (.crashed .capacity) := by
  intro shards
  have hLegible : Legible shards := by simp [Legible, shards]
  exact ⟨hLegible, fun m => (ends_of_legible _ m _ hLegible).full (Nat.le_refl _)⟩

/-- **The aggregator after calls**, whether they have succeeded or not. -/
def after (a : Aggregator) (m : Machine) (calls : List (List ShardRows)) : Aggregator :=
  calls.foldl (fun a shards => (a.aggregate m shards).2.2) a

theorem after_eq (a : Aggregator) (m : Machine) (calls : List (List ShardRows)) :
    a.after m calls = { a with normalizer :=
      ⟨a.normalizer.pair, calls.foldl a.normalizer.pair.leftOver a.normalizer.tally⟩ } := by
  induction calls generalizing a with
  | nil => rfl
  | cons shards calls ih =>
    rw [after, List.foldl_cons, (aggregate_eq a m shards).2]
    exact ih _

theorem leftOver_of_successes
    (h : ∀ call ∈ calls, ∃ series, ((ofPair pair window).aggregate m call).1 = .ok series) :
    calls.foldl pair.leftOver {} = {} := by
  induction calls with
  | nil => rfl
  | cons call calls ih =>
    rw [List.forall_mem_cons] at h
    obtain ⟨⟨series, hSeries⟩, hLater⟩ := h
    rw [List.foldl_cons, Pair.leftOver_empty (aggregate_eq_ok.1 hSeries).1]
    exact ih hLater

/-- **A call after others.** The aggregator keeps of the calls before it what they have left in the
tally. The call fails as it would have at first, or makes the same series but for this part of the
tally. So it makes exactly the same series if nothing is left, as after calls that have all
succeeded, or if there is no shard, and not otherwise. -/
theorem aggregate_after (pair : Pair) (window : Nat) (m : Machine) (calls : List (List ShardRows))
    (shards : List ShardRows) :
    let fresh := ofPair pair window
    let left := calls.foldl pair.leftOver {}
    ((fresh.after m calls).aggregate m shards).1 = (fresh.aggregate m shards).1.map (fun series =>
        if shards.isEmpty then series else { series with tally := left.merge series.tally }) ∧
      (∀ series, (fresh.aggregate m shards).1 = .ok series →
        (((fresh.after m calls).aggregate m shards).1 = .ok series ↔ shards = [] ∨ left = {})) ∧
      ((∀ call ∈ calls, ∃ series, (fresh.aggregate m call).1 = .ok series) → left = {}) := by
  intro fresh left
  have hCall : ((fresh.after m calls).aggregate m shards).1
      = (fresh.aggregate m shards).1.map (fun series =>
        if shards.isEmpty then series else { series with tally := left.merge series.tally }) := by
    rw [aggregate_ofPair, after_eq, (aggregate_eq _ m shards).1, Pair.outcomeOf_eq_map]
    cases shards with
    | nil =>
      simp only [List.isEmpty_nil, if_true, Tally.empty_merge]
      rfl
    | cons shard shards => rfl
  refine ⟨hCall, ?_, leftOver_of_successes⟩
  intro series hSeries
  rw [hCall, hSeries]
  cases shards with
  | nil => simp [Except.map]
  | cons shard shards =>
    have hSame : ({ series with tally := left.merge series.tally } : Series) = series
        ↔ left.merge series.tally = series.tally :=
      ⟨congrArg Series.tally, fun h => by rw [h]⟩
    simpa [Except.map, Tally.merge_eq_right] using hSame

/-- A call that fails before it has read a swap leaves nothing, and one that fails after it does. -/
theorem aggregate_after_failures :
    let fresh := ofPair ⟨"0x04", "0x03", .quotePerBase⟩ 2
    let m := Machine.ordering 64
    let row (id : String) (time : Int) : Outcome Entry := .ok ⟨id, .sample id time, time⟩
    let failed : Outcome Entry := .error (.database "disk I/O error")
    let shards : List ShardRows := [⟨"2023-01-02", [row "b" 9]⟩]
    ∃ series, (fresh.aggregate m shards).1 = .ok series ∧
      ((fresh.after m [shards, [⟨"2023-01-01", [failed]⟩]]).aggregate m shards).1 = .ok series ∧
      ((fresh.after m [[⟨"2023-01-01", [row "a" 7, failed]⟩]]).aggregate m shards).1
        ≠ .ok series := by
  intro fresh m row failed shards
  have hLegible : Legible shards := by simp [Legible, shards, row]
  obtain ⟨series, hSeries⟩ : ∃ series, (fresh.aggregate m shards).1 = .ok series :=
    (ends_of_legible _ m 2 hLegible).made_of_finite (by decide +kernel)
      (Machine.findsMedians_ordering 64) (isFinite_of_inOrder (by decide +kernel))
  refine ⟨series, hSeries, ?_, ?_⟩
  · exact ((aggregate_after _ _ m _ shards).2.1 series hSeries).2 (.inr (by decide +kernel))
  · intro hSame
    obtain hNone | hLeft := ((aggregate_after _ _ m _ shards).2.1 series hSeries).1 hSame
    · exact List.cons_ne_nil _ _ hNone
    · revert hLeft
      decide +kernel

/-- The counts of a call that has failed turn up in the series of the next one. -/
theorem aggregate_counts_failed_call :
    let fresh := ofPair ⟨"0x04", "0x03", .quotePerBase⟩ 2
    let m := Machine.ordering 64
    let row (id : String) (time : Int) : Outcome Entry := .ok ⟨id, .sample id time, time⟩
    let failing : List ShardRows :=
      [⟨"2023-01-01", [row "a" 7, .error (.database "disk I/O error")]⟩]
    let shards : List ShardRows := [⟨"2023-01-02", [row "b" 9]⟩]
    let tally? (a : Aggregator) : Option Tally := (a.aggregate m shards).1.toOption.map (·.tally)
    (fresh.aggregate m failing).1 = .error (.failed (.database "disk I/O error")) ∧
      tally? fresh = some ⟨1, 1, 0, 0, 0, 0⟩ ∧
      tally? (fresh.after m [failing]) = some ⟨2, 2, 0, 0, 0, 0⟩ ∧
      ((fresh.after m [failing]).aggregate m shards).1 ≠ (fresh.aggregate m shards).1 := by
  intro fresh m row failing shards tally?
  have hFirst : tally? fresh = some ⟨1, 1, 0, 0, 0, 0⟩ := by decide +kernel
  have hNext : tally? (fresh.after m [failing]) = some ⟨2, 2, 0, 0, 0, 0⟩ := by decide +kernel
  refine ⟨rfl, hFirst, hNext, fun hSame => ?_⟩
  have hTally : tally? (fresh.after m [failing]) = tally? fresh :=
    congrArg (fun outcome : Except Halt Series => outcome.toOption.map (·.tally)) hSame
  rw [hFirst, hNext] at hTally
  cases hTally

end Aggregator
end SwapArchive
