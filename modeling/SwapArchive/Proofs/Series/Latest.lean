import SwapArchive.Proofs.Series.Aggregation
import SwapArchive.Proofs.Series.Candles

/-!
# The latest candles

The candles of a series are carried on to a time of reference, and the last of them up to this time
are given. They end with the candle that covers it, whether it is before the last trade or long
after it, unless the series begins later.
-/

namespace SwapArchive

variable {period reference : Int} {candles : List Candle}

/-- Of candles in order of time, those up to a time come before all others. -/
theorem takeWhile_eq_filter (h : candles.Pairwise (·.time < ·.time)) (reference : Int) :
    candles.takeWhile (·.time ≤ reference) = candles.filter (·.time ≤ reference) := by
  induction candles with
  | nil => rfl
  | cons c rest ih =>
    rw [List.pairwise_cons] at h
    by_cases hPast : c.time ≤ reference
    · rw [List.takeWhile_cons_of_pos (by simp [hPast]), List.filter_cons_of_pos (by simp [hPast]),
        ih h.2]
    · rw [List.takeWhile_cons_of_neg (by simp [hPast])]
      refine (List.filter_eq_nil_iff.2 fun c' hc' => ?_).symm
      rcases List.mem_cons.1 hc' with rfl | hLater
      · simp [hPast]
      · have hAfter := h.1 c' hLater
        simp only [decide_eq_true_eq]
        omega

/-- **The latest of candles** in order of time: so many of those up to the time, as far as there are
so many. -/
theorem latestCandles_eq (h : candles.Pairwise (·.time < ·.time)) (count : Nat) (reference : Int) :
    let past := candles.filter (·.time ≤ reference)
    latestCandles candles count reference = past.drop (past.length - min count past.length) := by
  intro past
  rw [latestCandles, takeWhile_eq_filter h]
  show past.drop (past.length - count) = _
  congr 1
  omega

theorem latestCandles_contiguous (candles : List Candle) (count : Nat) (reference : Int) :
    latestCandles candles count reference <:+: candles :=
  (List.drop_suffix _ _).isInfix.trans (List.takeWhile_prefix _).isInfix

theorem length_latestCandles (h : candles.Pairwise (·.time < ·.time)) (count : Nat) :
    (latestCandles candles count reference).length
      = min count (candles.filter (·.time ≤ reference)).length := by
  rw [latestCandles_eq h, List.length_drop]
  omega

theorem getLast?_latestCandles (h : candles.Pairwise (·.time < ·.time)) {count : Nat}
    (hCount : count ≠ 0) : (latestCandles candles count reference).getLast?
      = (candles.filter (·.time ≤ reference)).getLast? := by
  rw [latestCandles_eq h, List.getLast?_drop]
  split
  · next hAll =>
    have hNone : (candles.filter (·.time ≤ reference)).length = 0 := by omega
    rw [List.length_eq_zero_iff.1 hNone]
    rfl
  · rfl

namespace Unbroken

variable {first last : Int} {opening : Float}

theorem ascending (h : Unbroken period first last opening candles) (hPeriod : 0 < period) :
    candles.Pairwise (·.time < ·.time) := by
  obtain ⟨n, -, hTimes⟩ := h.times
  rw [← List.pairwise_map, hTimes, List.pairwise_map]
  refine List.pairwise_lt_range.imp fun {i j} hLess => ?_
  have hProduct : (i : Int) * period < j * period := Int.mul_lt_mul_of_pos_right (by omega) hPeriod
  omega

theorem time_getElem (h : Unbroken period first last opening candles) {i : Nat}
    (hi : i < candles.length) : candles[i].time = first + i * period := by
  obtain ⟨n, -, hTimes⟩ := h.times
  have hAt : (candles.map Candle.time)[i]?
      = ((List.range (n + 1)).map fun (i : Nat) => first + i * period)[i]? := by rw [hTimes]
  have hLength : candles.length = n + 1 := by simpa using congrArg List.length hTimes
  simpa [hi, hLength ▸ hi] using hAt

/-- No candle begins before the first one. -/
theorem filter_eq_nil (h : Unbroken period first last opening candles) (hPeriod : 0 < period)
    (hBefore : reference < first) : candles.filter (·.time ≤ reference) = [] := by
  refine List.filter_eq_nil_iff.2 fun c hc => ?_
  obtain ⟨i, hi, rfl⟩ := List.getElem_of_mem hc
  have hProduct : 0 ≤ (i : Int) * period := Int.mul_nonneg (by omega) (Int.le_of_lt hPeriod)
  simp only [h.time_getElem hi, decide_eq_true_eq]
  omega

theorem length_eq (h : Unbroken period first last opening candles) (hPeriod : 0 < period) :
    (candles.length : Int) = (last - first) / period + 1 := by
  obtain ⟨n, rfl, hTimes⟩ := h.times
  have hLength : candles.length = n + 1 := by simpa using congrArg List.length hTimes
  rw [hLength, add_sub_cancel_left, Int.mul_ediv_cancel _ (Int.ne_of_gt hPeriod)]
  rfl

/-- The candles up to the bucket of a time are those whose number is not greater than its own. -/
theorem filter_eq_take (h : Unbroken period first last opening candles) (hPeriod : 0 < period)
    {k : Nat} (hBucket : first + k * period = bucketStart reference period) :
    candles.filter (·.time ≤ reference) = candles.take (k + 1) := by
  -- Candles are numbered from the first one, which begins the bucket number 0.
  have hPast (i : Nat) : first + i * period ≤ reference ↔ i < k + 1 := by
    have hFrom : bucketStart reference period ≤ reference := bucketStart_le hPeriod
    have hBefore : reference < bucketStart reference period + period := lt_bucketStart hPeriod
    constructor
    · intro hLess
      have hProduct : (i : Int) * period < (k + 1) * period := by
        rw [Int.add_mul]
        omega
      have hIndex : (i : Int) < k + 1 :=
        Int.lt_of_mul_lt_mul_right hProduct (Int.le_of_lt hPeriod)
      omega
    · intro hIndex
      have hProduct : (i : Int) * period ≤ k * period :=
        Int.mul_le_mul_of_nonneg_right (by omega) (Int.le_of_lt hPeriod)
      omega
  have hTaken : (candles.take (k + 1)).filter (·.time ≤ reference) = candles.take (k + 1) := by
    refine List.filter_eq_self.2 fun c hc => ?_
    obtain ⟨i, hi, rfl⟩ := List.mem_take_iff_getElem.1 hc
    simp only [h.time_getElem, hPast, decide_eq_true_eq]
    omega
  have hDropped : (candles.drop (k + 1)).filter (·.time ≤ reference) = [] := by
    refine List.filter_eq_nil_iff.2 fun c hc => ?_
    obtain ⟨i, hi, rfl⟩ := List.mem_drop_iff_getElem.1 hc
    simp only [h.time_getElem, hPast, decide_eq_true_eq]
    omega
  calc candles.filter (·.time ≤ reference)
      = (candles.take (k + 1) ++ candles.drop (k + 1)).filter (·.time ≤ reference) := by
        rw [List.take_append_drop]
    _ = candles.take (k + 1) := by
        rw [List.filter_append, hTaken, hDropped, List.append_nil]

/-- **The candles up to a time** whose bucket they reach: there is one for each period from the
first of them, and the last one is that of the bucket. -/
theorem filter_of_reached (h : Unbroken period first last opening candles) (hPeriod : 0 < period)
    (hFirst : period ∣ first) (hFrom : first ≤ reference)
    (hTo : bucketStart reference period ≤ last) :
    let past := candles.filter (·.time ≤ reference)
    (past.length : Int) = (bucketStart reference period - first) / period + 1 ∧
      past.getLast?.map Candle.time = some (bucketStart reference period) := by
  obtain ⟨k, hk⟩ :=
    exists_periods hPeriod hFirst dvd_bucketStart (le_bucketStart hPeriod hFirst hFrom)
  have hPeriods : (bucketStart reference period - first) / period = k := by
    rw [← hk, add_sub_cancel_left, Int.mul_ediv_cancel _ (Int.ne_of_gt hPeriod)]
  -- The candle of the reference is the one with index `k`, and the candles reach that far.
  have hEnough : k < candles.length := by
    have hFurther := Int.ediv_le_ediv hPeriod (Int.sub_le_sub_right hTo first)
    have hLength := h.length_eq hPeriod
    omega
  intro past
  have hPast : past = candles.take (k + 1) := h.filter_eq_take hPeriod hk
  rw [hPast, hPeriods]
  constructor
  · rw [List.length_take]
    omega
  · rw [List.getLast?_take, if_neg (Nat.succ_ne_zero k), Nat.add_sub_cancel,
      List.getElem?_eq_getElem hEnough, ← hk, ← h.time_getElem hEnough]
    rfl

end Unbroken

/-- Trades of an aggregated series are in order of time, and each has its deviation. -/
theorem Aggregator.ordered_of_aggregate {a : Aggregator} {m : Machine} {shards : List ShardRows}
    {series : Series} (h : (a.aggregate m shards).1 = .ok series) :
    (series.trades.Pairwise fun t t' => t.timestamp ≤ t'.timestamp) ∧
      series.deviations.length = series.trades.length := by
  rw [(a.aggregate_eq m shards).1, Pair.outcomeOf] at h
  split at h
  · cases h
  · cases hRolling : rollingDeviation m (a.normalizer.pair.pricesOf shards) a.window with
    | error crash =>
      rw [hRolling] at h
      cases h
    | ok deviations =>
      rw [hRolling] at h
      cases h
      obtain ⟨-, hLength, -⟩ := rollingDeviation_eq_ok.1 hRolling
      exact ⟨sorted_mergeSort _ _, hLength.trans (List.length_map _)⟩

variable {series : Series}

theorem Series.map_fst_withDeviations (h : series.deviations.length = series.trades.length) :
    series.withDeviations.map Prod.fst = series.trades :=
  List.map_fst_zip (Nat.le_of_eq h.symm)

/-- No trade of a series in order is refused. -/
theorem Series.candles_ne_failed (series : Series)
    (hOrder : series.trades.Pairwise fun t t' => t.timestamp ≤ t'.timestamp)
    (hDeviations : series.deviations.length = series.trades.length) (hPeriod : 0 < period)
    (threshold : Option Float) (endTime : Int) (f : Failure) :
    series.candles period threshold endTime ≠ .error (.failed f) := by
  rw [← map_fst_withDeviations hDeviations, List.pairwise_map] at hOrder
  rw [candles]
  by_cases hFits : CandlesFit period series.withDeviations endTime
  · rcases eq_or_ne series.withDeviations [] with hNone | hSome
    · rw [hNone] at hFits ⊢
      rw [buildCandles_nil hPeriod threshold hFits.2.1]
      nofun
    · obtain ⟨count, hCandles, -⟩ :=
        buildCandles_eq_chain hPeriod hSome hOrder threshold hFits
      rw [hCandles]
      nofun
  · obtain ⟨operation, hCrashed⟩ := buildCandles_of_not_fits hPeriod hOrder hFits
    rw [hCrashed]
    nofun

/-- The candles of a series in order lead from the first trade to the end, or further. -/
theorem Series.candles_of_ordered {first : Trade}
    (hFirst : series.trades.head? = some first)
    (hOrder : series.trades.Pairwise fun t t' => t.timestamp ≤ t'.timestamp)
    (hDeviations : series.deviations.length = series.trades.length) (hPeriod : 0 < period)
    (threshold : Option Float) {endTime : Int}
    (hFits : CandlesFit period series.withDeviations endTime) :
    ∃ (candles : List Candle) (last : Int),
      series.candles period threshold endTime = .ok candles ∧
      Unbroken period (bucketStart first.timestamp period) last first.price candles ∧
      bucketStart endTime period ≤ last := by
  have hTrades := map_fst_withDeviations hDeviations
  rw [← hTrades, List.pairwise_map] at hOrder
  rw [← hTrades, List.head?_map] at hFirst
  cases hAll : series.withDeviations with
  | nil =>
    rw [hAll] at hFirst
    cases hFirst
  | cons p rest =>
    rw [hAll] at hFirst hOrder hFits
    obtain rfl : p.1 = first := Option.some.inj hFirst
    obtain ⟨count, hCandles, hEnd⟩ :=
      buildCandles_eq_chain hPeriod (List.cons_ne_nil p rest) hOrder threshold hFits
    rw [List.head_cons] at hCandles hEnd
    refine ⟨_, _, (congrArg (buildCandles · period threshold endTime) hAll).trans hCandles,
      unbroken_close .., ?_⟩
    rw [hEnd]
    exact Int.le_max_right ..

/-- **The latest candles** of a series that has been aggregated. No trade is refused, so that
the candles can be built if their periods fit in 64 bits. They are in order of time. Given are the
last of those that begin at the time of reference or before, as many as wanted. There are none if
there is no trade, if none are wanted, or if the first trade is in a later period than the time of
reference. Otherwise they follow each other, the last of them covers the time of reference, and
there are as many as wanted, unless there are less periods from the first trade to that time. -/
theorem latestCandles_of_aggregate {a : Aggregator} {m : Machine} {shards : List ShardRows}
    (hSeries : (a.aggregate m shards).1 = .ok series) (hPeriod : 0 < period)
    (limit : Option Nat) (threshold : Option Float) (reference : Int) :
    (∀ f, series.candles period threshold reference ≠ .error (.failed f)) ∧
    (CandlesFit period series.withDeviations reference → ∃ candles,
      series.candles period threshold reference = .ok candles ∧
      let wanted := limit.getD candles.length
      let past := candles.filter (·.time ≤ reference)
      let selected := latestCandles candles wanted reference
      candles.Pairwise (·.time < ·.time) ∧
      selected = past.drop (past.length - min wanted past.length) ∧
      (series.trades = [] ∨ limit = some 0 ∨
          (∃ first ∈ series.trades.head?, reference < bucketStart first.timestamp period) →
        selected = []) ∧
      ∀ first ∈ series.trades.head?, limit ≠ some 0 →
        bucketStart first.timestamp period ≤ reference →
        let periods :=
          (bucketStart reference period - bucketStart first.timestamp period) / period + 1
        selected <:+: candles ∧
          (∃ c, selected.getLast? = some c ∧ c.time = bucketStart reference period ∧
            c.time ≤ reference ∧ reference < c.time + period) ∧
          (selected.length : Int) = limit.elim periods (min · periods)) := by
  obtain ⟨hOrder, hDeviations⟩ := Aggregator.ordered_of_aggregate hSeries
  refine ⟨series.candles_ne_failed hOrder hDeviations hPeriod threshold reference, fun hFits => ?_⟩
  -- Candles reach from the bucket of the first trade past that of the reference, without a gap.
  cases hHead : series.trades.head? with
  | none =>
    have hNone : series.trades = [] := List.head?_eq_none_iff.1 hHead
    have hPairs : series.withDeviations = [] := by
      rw [Series.withDeviations, hNone, List.zip_nil_left]
    have hCandles : series.candles period threshold reference = .ok [] := by
      rw [Series.candles, hPairs]
      exact buildCandles_nil hPeriod threshold hFits.2.1
    exact ⟨[], hCandles, .nil, latestCandles_eq .nil .., fun _ => by simp [latestCandles], nofun⟩
  | some first =>
    obtain ⟨candles, last, hCandles, hUnbroken, hTo⟩ :=
      Series.candles_of_ordered hHead hOrder hDeviations hPeriod threshold hFits
    have hAscending := hUnbroken.ascending hPeriod
    refine ⟨candles, hCandles, hAscending, latestCandles_eq hAscending _ _, ?_, ?_⟩
    · intro hNone
      rw [← List.length_eq_zero_iff, length_latestCandles hAscending]
      rcases hNone with hEmpty | rfl | ⟨t, ht, hBefore⟩
      · rw [hEmpty] at hHead
        cases hHead
      · exact Nat.zero_min _
      · cases ht
        rw [hUnbroken.filter_eq_nil hPeriod hBefore]
        exact Nat.min_zero _
    · intro t ht hWanted hFrom periods
      cases ht
      obtain ⟨hLength, hLast⟩ := hUnbroken.filter_of_reached hPeriod dvd_bucketStart hFrom hTo
      have hPast := List.length_filter_le (fun c => decide (c.time ≤ reference)) candles
      refine ⟨latestCandles_contiguous .., ?_, ?_⟩
      · obtain ⟨c, hc, hTime⟩ := Option.map_eq_some_iff.1 hLast
        have hCount : limit.getD candles.length ≠ 0 := by
          cases limit with
          | none =>
            have hSome := List.length_pos_of_mem (List.mem_of_getLast? hc)
            exact Nat.ne_of_gt (Nat.lt_of_lt_of_le hSome hPast)
          | some n => exact fun hZero => hWanted (congrArg some hZero)
        rw [getLast?_latestCandles hAscending hCount]
        refine ⟨c, hc, hTime, ?_, ?_⟩
        · rw [hTime]
          exact bucketStart_le hPeriod
        · rw [hTime]
          exact lt_bucketStart hPeriod
      · have hPeriods : periods = (candles.filter (·.time ≤ reference)).length := hLength.symm
        rw [length_latestCandles hAscending, hPeriods]
        cases limit with
        | none => exact congrArg Nat.cast (Nat.min_eq_right hPast)
        | some n =>
          rw [Option.getD_some, Option.elim_some]
          omega

/-- Two candles up to a time long after the last trade, and none up to a time before the first. -/
theorem latestCandles_of_aggregate_late :
    let pair : Pair := ⟨"0x04", "0x03", .quotePerBase⟩
    let m := Machine.ordering 64
    let row (id : String) (time : Int) : Outcome Entry := .ok ⟨id, .sample id time, time⟩
    let shards : List ShardRows :=
      [⟨"2023-01-01", [row "a" 70, row "b" 75]⟩, ⟨"2023-01-02", [row "c" 130]⟩]
    ∃ series, ((Aggregator.ofPair pair 2).aggregate m shards).1 = .ok series ∧
      (∃ candles, series.candles 60 (some 3.0) 259 = .ok candles ∧
        (latestCandles candles 2 259).length = 2 ∧
        (latestCandles candles 2 259).getLast?.map Candle.time = some 240) ∧
      ∃ candles, series.candles 60 (some 3.0) 59 = .ok candles ∧
        latestCandles candles 2 59 = [] := by
  intro pair m row shards
  have hLegible : Legible shards := by simp [Legible, shards, row]
  obtain ⟨series, hSeries⟩ : ∃ series,
      ((Aggregator.ofPair pair 2).aggregate m shards).1 = .ok series :=
    (Aggregator.ends_of_legible pair m 2 hLegible).made_of_finite (by decide +kernel)
      (Machine.findsMedians_ordering 64) (isFinite_of_inOrder (by decide +kernel))
  have hTimes : series.trades.map Trade.timestamp = [70, 75, 130] := by
    obtain ⟨-, deviations, -, rfl⟩ := Aggregator.aggregate_eq_ok.1 hSeries
    simp only [Pair.seriesOf, Pair.mergedOf, inOrder]
    rw [List.mergeSort_of_pairwise] <;> decide +kernel
  have hFits {reference : Int} (hEnd : PeriodFits 60 reference) :
      CandlesFit 60 series.withDeviations reference := by
    refine ⟨fun p hp => ?_, hEnd.1, fun _ => hEnd⟩
    have hTime : p.1.timestamp ∈ series.trades.map Trade.timestamp :=
      List.mem_map_of_mem (List.of_mem_zip hp).1
    rw [hTimes] at hTime
    have hAll : ∀ time ∈ [70, 75, 130], PeriodFits 60 time := by decide
    exact hAll _ hTime
  obtain ⟨first, hFirst, hTime⟩ : ∃ first, series.trades.head? = some first ∧
      first.timestamp = 70 := by
    cases hTrades : series.trades with
    | nil => simp [hTrades] at hTimes
    | cons first rest =>
      rw [hTrades] at hTimes
      exact ⟨first, rfl, (List.cons.inj hTimes).1⟩
  have hPeriod : (0 : Int) < 60 := by decide
  refine ⟨series, hSeries, ?_, ?_⟩
  · obtain ⟨candles, hCandles, -, -, -, hLatest⟩ :=
      (latestCandles_of_aggregate hSeries hPeriod (some 2) (some 3.0) 259).2 (hFits (by decide))
    obtain ⟨-, ⟨c, hLast, hCovers, -⟩, hLength⟩ :=
      hLatest first hFirst (by decide) (by rw [hTime]; decide)
    rw [hTime] at hLength
    refine ⟨candles, hCandles, Int.ofNat_inj.1 hLength, ?_⟩
    rw [show latestCandles candles 2 259 = latestCandles candles ((some 2).getD candles.length) 259
      from rfl, hLast]
    exact congrArg some hCovers
  · obtain ⟨candles, hCandles, -, -, hNone, -⟩ :=
      (latestCandles_of_aggregate hSeries hPeriod (some 2) (some 3.0) 59).2 (hFits (by decide))
    exact ⟨candles, hCandles, hNone (.inr (.inr ⟨first, hFirst, by rw [hTime]; decide⟩))⟩

end SwapArchive
