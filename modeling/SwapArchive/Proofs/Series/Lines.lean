import SwapArchive.CommandLine.Run
import SwapArchive.Proofs.Series.Rolling
import SwapArchive.Proofs.Series.Trades
import SwapArchive.Proofs.Shard.Listing

/-!
# The lines of a series

A series has one deviation for each of its trades, with none before the window fills. So a series
that has been built can be written down: there is one line for each trade, and the last column is
empty in the lines before the window fills and in no others.

The whole window is reserved before the first price, however few trades there are. If it cannot be,
the program ends before there is a series.
-/

namespace SwapArchive

/-! ## Numbers -/

namespace Decimal.Style

variable {style : Style}

theorem writePositional_ne_nil {digits : List Char} (h : digits ≠ []) (power : Int) :
    style.writePositional digits power ≠ [] := by
  unfold writePositional
  dsimp only
  split
  · simp [h]
  · split
    · simp
    · simp

theorem writeDecimal_ne_nil (d : Numeral) : style.writeDecimal d ≠ [] := by
  have hDigits : (toString d.digits).toList ≠ [] := by
    rw [Nat.toString_eq_repr, Nat.toList_repr]
    exact Nat.toDigits_ne_nil
  unfold writeDecimal
  dsimp only
  split
  · exact writePositional_ne_nil hDigits _
  · split
    · exact writePositional_ne_nil hDigits _
    · simp [writeExponent]

/-- **A number is written with one character at least**, if something stands for what is not a
number. -/
theorem write_ne_empty (hNotANumber : style.notANumber ≠ "") (hInfinity : style.infinity ≠ "")
    (x : Float) : style.write x ≠ "" := by
  unfold write
  split
  · exact hNotANumber
  · simp [hInfinity]
  · next mantissa exponent _ =>
    have hDigits : String.ofList (style.writeDecimal (shortest style.tie mantissa exponent)) ≠ "" :=
      by simp [writeDecimal_ne_nil]
    dsimp only
    rw [ne_eq, String.append_eq_empty_iff, not_and_or]
    right
    split
    · split <;> decide
    · exact hDigits

end Decimal.Style

/-! ## Deviations -/

theorem mapM_eq_ok {α β ε : Type} {f : α → Except ε β} {g : α → β} {xs : List α}
    (h : ∀ x ∈ xs, f x = .ok (g x)) : xs.mapM f = .ok (xs.map g) := by
  induction xs with
  | nil => rfl
  | cons x xs ih =>
    rw [List.forall_mem_cons] at h
    rw [List.mapM_cons, h.1, ih h.2]
    rfl

namespace Series

variable {s : Series} {m : Machine} {window i : Nat}

def prices (s : Series) : List Float := s.trades.map (·.price)

theorem length_prices : s.prices.length = s.length := List.length_map _

/-- **A rolled series**: its deviations are those that a machine finds of its prices in a window. -/
def Rolled (s : Series) (m : Machine) (window : Nat) : Prop :=
  rollingDeviation m s.prices window = .ok s.deviations

def column (deviation : Option Float) : String := (deviation.map plainStyle.write).getD ""

theorem column_eq_empty {deviation : Option Float} : column deviation = "" ↔ deviation = none := by
  cases deviation with
  | none => exact iff_of_true rfl rfl
  | some d => exact iff_of_false (Decimal.Style.write_ne_empty (by decide) (by decide) d) nofun

namespace Rolled

theorem length_deviations (h : s.Rolled m window) : s.deviations.length = s.length :=
  (rollingDeviation_eq_ok.1 h).2.1.trans length_prices

theorem deviations_getElem? (h : s.Rolled m window) (hIndex : i < s.length) :
    ∃ entry, s.deviations[i]? = some entry ∧
      m.deviationAt s.prices (max 1 window) i = .ok entry := by
  rw [← h.length_deviations] at hIndex
  exact ⟨_, List.getElem?_eq_getElem hIndex, (rollingDeviation_eq_ok.1 h).2.2 i hIndex⟩

theorem deviations_filling (h : s.Rolled m window)
    (hIndex : i < min (max 1 window - 1) s.length) : s.deviations[i]? = some none := by
  obtain ⟨entry, hEntry, hFound⟩ := h.deviations_getElem? (i := i) (by omega)
  rw [Machine.deviationAt, if_pos (by omega)] at hFound
  rw [hEntry, Except.ok.inj hFound]

theorem deviations_full (h : s.Rolled m window) (hIndex : max 1 window - 1 ≤ i ∧ i < s.length) :
    ∃ d, m.medianDeviation? (windowAt s.prices (max 1 window) i) = .ok (some d) ∧
      s.deviations[i]? = some (some d) := by
  obtain ⟨entry, hEntry, hFound⟩ := h.deviations_getElem? hIndex.2
  rw [Machine.deviationAt, if_neg (by omega)] at hFound
  have hLength := length_prices (s := s)
  have hSome : windowAt s.prices (max 1 window) i ≠ [] := by
    rw [← List.length_pos_iff, windowAt, List.length_drop, List.length_take]
    omega
  obtain ⟨d, rfl⟩ := Machine.exists_of_medianDeviation? hSome hFound
  exact ⟨d, hFound, hEntry⟩

/-- **The deviation at an index**: that of the window which ends there, unless there are too few
prices before it, or the index is past the end. -/
theorem deviationAt (h : s.Rolled m window) (i : Nat) :
    (max 1 window - 1 ≤ i ∧ i < s.length →
      ∃ d, m.medianDeviation? (windowAt s.prices (max 1 window) i) = .ok (some d) ∧
        s.deviationAt i = .ok d) ∧
    (i < min (max 1 window - 1) s.length → s.deviationAt i = .error
      (.insufficientData s!"rolling MAD undefined at index {i} before the window fills")) ∧
    (s.length ≤ i → s.deviationAt i = .error
      (.data s!"index {i} out of range for series of {s.length}")) := by
  refine ⟨fun hFull => ?_, fun hFilling => ?_, fun hPast => ?_⟩
  · obtain ⟨d, hDeviation, hEntry⟩ := h.deviations_full hFull
    exact ⟨d, hDeviation, by rw [Series.deviationAt, hEntry]⟩
  · rw [Series.deviationAt, h.deviations_filling hFilling]
  · rw [Series.deviationAt, List.getElem?_eq_none (h.length_deviations.trans_le hPast)]

theorem column_eq_empty_iff (h : s.Rolled m window) :
    (s.deviations.map column)[i]? = some "" ↔ i < min (max 1 window - 1) s.length := by
  rw [List.getElem?_map, Option.map_eq_some_iff]
  constructor
  · rintro ⟨deviation, hEntry, hEmpty⟩
    have hIndex : i < s.length := h.length_deviations ▸ (List.getElem?_eq_some_iff.1 hEntry).1
    by_contra hFull
    obtain ⟨d, -, hSome⟩ := h.deviations_full (i := i) (by omega)
    rw [column_eq_empty.1 hEmpty, hSome] at hEntry
    cases hEntry
  · exact fun hFilling => ⟨none, h.deviations_filling hFilling, rfl⟩

end Rolled

theorem deviations_of_deviationAt {d : Float} (h : s.deviationAt i = .ok d) :
    s.deviations[i]? = some (some d) := by
  unfold Series.deviationAt at h
  split at h
  · next hEntry =>
    cases h
    exact hEntry
  · cases h
  · cases h

/-! ## Lines -/

theorem csvLineAt_eq {point : PricePoint} {deviation : Option Float}
    (h : s.deviations[i]? = some deviation) :
    s.csvLineAt (point, i) = .ok (csvLine point deviation) := by
  rw [csvLineAt, Series.deviationAt, h]
  cases deviation <;> rfl

def tradeLine (t : Trade) (column : String) : String :=
  String.intercalate "," [toString t.timestamp, plainStyle.write t.price, column]

/-- **A series with a deviation for each trade can be written down**, with a line for each trade. -/
theorem csv_eq (h : s.deviations.length = s.length) : s.csv
    = .ok (textOfLines (csvHeader :: s.trades.zipWith tradeLine (s.deviations.map column))) := by
  let line (row : PricePoint × Nat) : String := csvLine row.1 (s.deviations[row.2]?.join)
  have hPoints : s.points.length = s.length := List.length_map _
  have hLines : s.points.zipIdx.mapM s.csvLineAt = .ok (s.points.zipIdx.map line) := by
    refine mapM_eq_ok fun row hRow => ?_
    have hIndex : row.2 < s.deviations.length := by
      have := (List.mem_zipIdx hRow).2.1
      omega
    have hEntry := List.getElem?_eq_getElem hIndex
    exact (csvLineAt_eq hEntry).trans (by simp only [line, hEntry, Option.join_some])
  -- The deviations are looked up by number, one for each point: this is the same as pairing them.
  have hSame : s.points.zipIdx.map line = s.trades.zipWith tradeLine (s.deviations.map column) := by
    refine List.ext_getElem ?_ fun i hLeft hRight => ?_
    · simp only [List.length_map, List.length_zipIdx, List.length_zipWith, hPoints, h]
      exact (Nat.min_self _).symm
    · have hIndex : i < s.deviations.length := by
        rw [List.length_map, List.length_zipIdx] at hLeft
        omega
      simp only [line, points, List.getElem_map, List.getElem_zipIdx, List.getElem_zipWith,
        Nat.zero_add, List.getElem?_eq_getElem hIndex, Option.join_some]
      rfl
  rw [csv, hLines]
  exact congrArg (fun lines => Except.ok (textOfLines (csvHeader :: lines))) hSame

end Series

theorem Aggregator.rolled_of_aggregate {a : Aggregator} {m : Machine} {shards : List ShardRows}
    {series : Series} (h : (a.aggregate m shards).1 = .ok series) : series.Rolled m a.window := by
  rw [(a.aggregate_eq m shards).1, Pair.outcomeOf] at h
  split at h
  · cases h
  · cases hRolling : rollingDeviation m (a.normalizer.pair.pricesOf shards) a.window with
    | error crash =>
      rw [hRolling] at h
      cases h
    | ok deviations =>
      rw [hRolling] at h
      cases h
      exact hRolling

/-! ## The command -/

namespace CommandLine

open Series (csvHeader textOfLines tradeLine)

variable {setting : Setting} {session : Session} {directory : Option String} {shards : List Shard}
  {s : Series}

/-- What the command prints: the lines of the series, if one is made. -/
theorem Setting.output_series
    (hShards : (session.tree.openShards (directory.getD setting.config.shards.directory)).1
      = .ok shards) :
    (setting.runTask session (.series directory)).output
      = match ((Aggregator.ofConfig setting.config).aggregate setting.machine
          (shards.map Shard.rows)).1 with
        | .error halt => .error (.ofHalt halt)
        | .ok s => .ok (textOfLines (csvHeader ::
            s.trades.zipWith tradeLine (s.deviations.map Series.column))) := by
  have hText {s : Series} (hSeries : ((Aggregator.ofConfig setting.config).aggregate
      setting.machine (shards.map Shard.rows)).1 = .ok s) :=
    Series.csv_eq (Aggregator.rolled_of_aggregate hSeries).length_deviations
  -- Opening and aggregating also return what they report, which does not count here.
  rw [runTask, buildSeries]
  generalize session.tree.openShards _ = opened at *
  obtain ⟨_, records⟩ := opened
  obtain rfl : _ = Except.ok shards := hShards
  dsimp only
  generalize (Aggregator.ofConfig setting.config).aggregate _ _ = aggregated at *
  obtain ⟨ended, more, after⟩ := aggregated
  cases ended with
  | error halt => rfl
  | ok s => exact congrArg (Except.mapError Trouble.failed) (hText rfl)

def sampleSwaps : List Swap := [.sample "a" 7, .sample "b" 8, .sample "c" 9]

/-- A session with one shard of swaps. -/
def Session.sample : Session where
  tree := ⟨[], [(["D"], .directory), (["D", "2023-01-01.db"],
    .file (.table (.ofSwaps sampleSwaps)))]⟩
  endpoint := ⟨[], []⟩

/-- A setting with the pair of sample swaps, and a window of some size. -/
def Setting.sample (m : Machine) (size : Nat) : Setting where
  config := { shards := { directory := "D" }, pair := ⟨"0x04", "0x03", .quotePerBase⟩,
              series := { madWindow := size } }
  proxies := {}
  machine := m
  now := 0
  draw _ _ := 0

/-- The shard of the sample session, and how its series is made with a window. -/
theorem Session.series_sample (m : Machine) (size : Nat) : ∃ shards,
    (Session.sample.tree.openShards "D").1 = .ok shards ∧
      let pair : Pair := ⟨"0x04", "0x03", .quotePerBase⟩
      let trades := inOrder (pair.tradesOf sampleSwaps)
      let made := ((Aggregator.ofPair pair size).aggregate m (shards.map Shard.rows)).1
      Aggregator.Ends m (trades.map (·.price)) size made ∧
        ∀ s, made = .ok s → s.trades = trades := by
  let shard : Shard := ⟨"D/2023-01-01.db", some ["D", "2023-01-01.db"], .refused,
    .table (.ofSwaps sampleSwaps), none⟩
  have hShards : (Session.sample.tree.openShards "D").1 = .ok [shard] := by
    with_unfolding_all rfl
  have hRows : [shard.rows].flatMap (·.rows) = sampleSwaps.map fun x => .ok x.entry :=
    (List.append_nil _).trans (Table.scan_ofSwaps (by decide) (by decide))
  obtain ⟨hEnds, hMade⟩ :=
    Aggregator.aggregate_swaps ⟨"0x04", "0x03", .quotePerBase⟩ size m hRows
  exact ⟨[shard], hShards, hEnds, fun s hSeries => (hMade s hSeries).1⟩

/-- **The rolling deviation** exists exactly if the window can be reserved and the medians that are
asked for are found. It has one entry for each price. An entry is missing as long as there are fewer
prices than the window holds, and otherwise it is the deviation of exactly the prices in the window
that ends there; a window holds one price at least. A window of `2 ^ 60` prices cannot be reserved
on any machine, however few prices there are.

So a series that has been built tells at an index the deviation of the window there, or that there
are too few prices before it, or that it is past the end. The command that prints a series does not
fail any more once it is built: it prints a line for each trade, and the last column is empty in
exactly those lines before the window fills. -/
theorem Setting.series_of_windows (setting : Setting) :
    let m := setting.machine
    (∀ prices size,
      (∀ deviations, rollingDeviation m prices size = .ok deviations ↔
        m.reserve (max size 1 * priceBytes) = .ok () ∧ deviations.length = prices.length ∧
          ∀ i (hIndex : i < deviations.length),
            (if i + 1 < max 1 size then .ok none
              else m.medianDeviation? (windowAt prices (max 1 size) i)) = .ok deviations[i]) ∧
      (m.Suits prices size → rollingDeviation m prices size
        = .ok ((List.range prices.length).map fun i => if i + 1 < max 1 size then none
            else medianDeviation? (windowAt prices (max 1 size) i))) ∧
      (2 ^ 60 ≤ size → rollingDeviation m prices size = .error .capacity)) ∧
    (∀ (a : Aggregator) (shards : List ShardRows) (s : Series),
      (a.aggregate m shards).1 = .ok s → ∀ i,
        (max 1 a.window - 1 ≤ i ∧ i < s.length →
          ∃ d, m.medianDeviation? (windowAt s.prices (max 1 a.window) i) = .ok (some d) ∧
            s.deviationAt i = .ok d) ∧
        (i < min (max 1 a.window - 1) s.length → s.deviationAt i = .error
          (.insufficientData s!"rolling MAD undefined at index {i} before the window fills")) ∧
        (s.length ≤ i → s.deviationAt i = .error
          (.data s!"index {i} out of range for series of {s.length}"))) ∧
    ∀ (session : Session) (directory : Option String) (shards : List Shard) (s : Series),
      (session.tree.openShards (directory.getD setting.config.shards.directory)).1 = .ok shards →
      ((Aggregator.ofConfig setting.config).aggregate m (shards.map Shard.rows)).1 = .ok s →
      ∃ columns : List String, columns.length = s.length ∧
        (∀ i, columns[i]? = some ""
          ↔ i < min (max 1 setting.config.series.madWindow - 1) s.length) ∧
        (∀ i d, s.deviationAt i = .ok d → columns[i]? = some (plainStyle.write d)) ∧
        (setting.runTask session (.series directory)).output
          = .ok (textOfLines (csvHeader :: s.trades.zipWith tradeLine columns)) := by
  intro m
  refine ⟨fun prices size => ⟨fun deviations => ?_, fun hSuits => hSuits.rollingDeviation_eq,
      fun hGreat => rollingDeviation_of_capacity m prices hGreat⟩,
    fun a shards s hSeries => ?_, ?_⟩
  · simp only [rollingDeviation_eq_ok, Machine.deviationAt]
  · exact (Aggregator.rolled_of_aggregate hSeries).deviationAt
  intro session directory shards s hShards hSeries
  have hRolled : s.Rolled m (max setting.config.series.madWindow 1) :=
    Aggregator.rolled_of_aggregate (a := .ofConfig setting.config) hSeries
  refine ⟨s.deviations.map Series.column, ?_, fun i => ?_, fun i d hDeviation => ?_, ?_⟩
  · rw [List.length_map, hRolled.length_deviations]
  · rw [hRolled.column_eq_empty_iff, Nat.max_comm _ 1, ← Nat.max_assoc, Nat.max_self]
  · rw [List.getElem?_map, Series.deviations_of_deviationAt hDeviation]
    rfl
  · rw [output_series hShards, hSeries]

/-- Three trades in a window of two: the first line ends with a comma. -/
theorem Setting.series_of_windows_of_two :
    let m := Machine.ordering 64
    ∃ shards s columns, (Session.sample.tree.openShards "D").1 = .ok shards ∧
      ((Aggregator.ofConfig (Setting.sample m 2).config).aggregate m (shards.map Shard.rows)).1
        = .ok s ∧ s.length = 3 ∧
      rollingDeviation m [1, 4, 9] 2
        = .ok [none, medianDeviation? [1, 4], medianDeviation? [4, 9]] ∧
      (∃ d, m.medianDeviation? (windowAt s.prices 2 1) = .ok (some d) ∧
        s.deviationAt 1 = .ok d) ∧
      columns.length = 3 ∧ columns[0]? = some "" ∧ columns[1]? ≠ some "" ∧
      ((Setting.sample m 2).runTask Session.sample (.series none)).output
        = .ok (textOfLines (csvHeader :: s.trades.zipWith tradeLine columns)) := by
  intro m
  obtain ⟨shards, hShards, hEnds, hMade⟩ := Session.series_sample m 2
  have hRoom : m.reserve (max 2 1 * priceBytes) = .ok () := by decide
  obtain ⟨s, hSeries⟩ := hEnds.made_of_finite hRoom (Machine.findsMedians_ordering 64)
    (isFinite_of_inOrder (by decide +kernel))
  have hLength : s.length = 3 := by
    rw [Series.length, hMade s hSeries, inOrder, List.length_mergeSort]
    decide +kernel
  obtain ⟨hRolling, hAt, hPrinted⟩ := Setting.series_of_windows (.sample m 2)
  obtain ⟨columns, hColumns, hEmpty, -, hOutput⟩ :=
    hPrinted Session.sample none shards s hShards hSeries
  have hBounds : max 1 2 - 1 ≤ 1 ∧ 1 < s.length := by omega
  have hSuits : m.Suits [1, 4, 9] 2 :=
    .of_finite hRoom (Machine.findsMedians_ordering 64) (by decide +kernel)
  refine ⟨shards, s, columns, hShards, hSeries, hLength, (hRolling [1, 4, 9] 2).2.1 hSuits,
    (hAt _ _ s hSeries 1).1 hBounds, hColumns.trans hLength, ?_, ?_, hOutput⟩
  · rw [hEmpty, hLength]
    decide
  · rw [ne_eq, hEmpty, hLength]
    decide

/-- A valid configuration with a window of `2 ^ 60` prices. The shard is opened and its three swaps
are read, but the program ends before there is a series, on every machine. -/
theorem Setting.series_without_room :
    ∃ shards, (Session.sample.tree.openShards "D").1 = .ok shards ∧ ∀ m : Machine,
      let setting := Setting.sample m (2 ^ 60)
      setting.config.fault? = none ∧
        rollingDeviation m [1.0, 4.0] (2 ^ 60) = .error .capacity ∧
        ((Aggregator.ofConfig setting.config).aggregate m (shards.map Shard.rows)).1
          = .error (.crashed .capacity) ∧
        (setting.runTask Session.sample (.series none)).output
          = .error (.crashed .capacity) := by
  obtain ⟨shards, hShards, -⟩ := Session.series_sample (.ordering 64) (2 ^ 60)
  have hValid : (Setting.sample (.ordering 64) (2 ^ 60)).config.fault? = none := by decide +kernel
  refine ⟨shards, hShards, fun m => ?_⟩
  obtain ⟨shards', hShards', hEnds, -⟩ := Session.series_sample m (2 ^ 60)
  obtain rfl := Except.ok.inj (hShards.symm.trans hShards')
  have hCrashed := hEnds.full (Nat.le_refl _)
  have hOutput := @output_series (Setting.sample m (2 ^ 60)) Session.sample none shards hShards
  have hMade : ((Aggregator.ofConfig (Setting.sample m (2 ^ 60)).config).aggregate m
      (shards.map Shard.rows)).1 = .error (.crashed .capacity) := hCrashed
  refine ⟨hValid, rollingDeviation_of_capacity m _ (Nat.le_refl _), hMade, ?_⟩
  rw [hOutput]
  dsimp only [Setting.sample] at hMade ⊢
  rw [hMade]
  rfl

end CommandLine
end SwapArchive
