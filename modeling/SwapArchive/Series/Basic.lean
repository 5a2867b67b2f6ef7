import SwapArchive.Decimal.Style
import SwapArchive.Log
import SwapArchive.Series.Candles
import SwapArchive.Series.Dispersion
import SwapArchive.Series.Normalizer

/-!
# Price series

The trades of all shards are merged into one series in order of time, with the rolling deviation of
their prices. Stored swaps that cannot be decoded are passed over; a shard that cannot be read
fails the whole series.
-/

namespace SwapArchive

/-- What a shard yields: its rows in order, each decoded or failed. -/
structure ShardRows where
  label : String
  rows : List (Outcome Entry)

/-- Trades in order of time, with the rolling deviation of their prices. -/
structure Series where
  trades : List Trade
  deviations : List (Option Float)
  tally : Tally
  unreadable : Nat
  deriving DecidableEq

/-- What builds series: the pair with its tally, and the size of the window. -/
structure Aggregator where
  normalizer : Normalizer
  window : Nat
  deriving DecidableEq, Repr

namespace Aggregator

/-- An aggregator for a pair. The window holds one trade at least. -/
def ofPair (pair : Pair) (window : Nat) : Aggregator := ⟨.ofPair pair, max window 1⟩

def ofConfig (c : Config) : Aggregator := ofPair (.ofConfig c.pair) c.series.madWindow

end Aggregator

/-- What has been read of a shard: its trades in order, the number of unreadable rows, the reports
of them, and the normalizer. -/
structure ShardReading where
  trades : List Trade
  unreadable : Nat
  records : List Log.Record
  normalizer : Normalizer

/-- What is reported of a row that is passed over. -/
def unreadableRecord (label reason : String) : Log.Record :=
  .warn "skipping unreadable row" [("shard", label), ("error", reason)]

/-- **Reading a shard**: rows one after the other. A row that is no swap is passed over; any other
failure ends the reading, with the normalizer as it then is. -/
def readRows (label : String) (n : Normalizer) :
    List (Outcome Entry) → Except Failure Unit × ShardReading
  | [] => (.ok (), ⟨[], 0, [], n⟩)
  | .ok e :: rest =>
    let (trade, n) := n.normalize e
    let (ended, reading) := readRows label n rest
    (ended, { reading with trades := trade.toList ++ reading.trades })
  | .error (.data reason) :: rest =>
    let (ended, reading) := readRows label n rest
    (ended, { reading with
      unreadable := reading.unreadable + 1
      records := unreadableRecord label reason :: reading.records })
  -- The swaps before this one stay in the tally of the normalizer.
  | .error f :: _ => (.error f, ⟨[], 0, [], n⟩)

/-- **Numbers in log records**: without an exponent from `0.0001` to below `10 ^ 16`, and whole
numbers with `.0`. -/
def logNumberStyle : Decimal.Style where
  positional := some (-4, 15)
  pointAlways := true
  plusSign := false
  tie := .up
  notANumber := "NaN"
  infinity := "inf"

/-- What is reported of a shard that has been read. -/
def tallyRecords (label : String) (t : Tally) : List Log.Record := [
  .info s!"{t.kept} out of {t.total} swaps kept" [("shard", label)],
  .debug "normalization rejects" [
    ("shard", label),
    ("kept_frac", logNumberStyle.write t.keptFraction),
    ("wrong_pair", toString t.wrongPair),
    ("self_trades", toString t.selfTrades),
    ("zero_flow", toString t.zeroFlow),
    ("unparsable", toString t.unparsable)]]

/-- What has been read of all shards so far. -/
structure Gathered where
  trades : List Trade
  tally : Tally
  unreadable : Nat
  records : List Log.Record

/-- **Reading shards** one after the other, each with a tally of its own. -/
def gather (n : Normalizer) : List ShardRows → Except Failure Unit × Gathered × Normalizer
  | [] => (.ok (), ⟨[], {}, 0, []⟩, n)
  | shard :: shards =>
    match readRows shard.label n shard.rows with
    | (.error f, reading) => (.error f, ⟨[], {}, 0, reading.records⟩, reading.normalizer)
    | (.ok (), reading) =>
      -- Only a shard that was read to its end has its tally taken.
      let (tally, n) := reading.normalizer.takeTally
      let (ended, rest, n) := gather n shards
      (ended,
        { trades := reading.trades ++ rest.trades
          tally := tally.merge rest.tally
          unreadable := reading.unreadable + rest.unreadable
          records := reading.records ++ tallyRecords shard.label tally ++ rest.records }, n)

/-- Trades in order of time; trades of one second keep their order. -/
def inOrder (trades : List Trade) : List Trade :=
  trades.mergeSort fun a b => a.timestamp ≤ b.timestamp

/-- **Aggregation**: the series of all shards, what was reported on the way, and the aggregator
afterwards. -/
def Aggregator.aggregate (a : Aggregator) (m : Machine) (shards : List ShardRows) :
    Except Halt Series × List Log.Record × Aggregator :=
  let (ended, gathered, n) := gather a.normalizer shards
  let a := { a with normalizer := n }
  match ended with
  | .error f => (.error (.failed f), gathered.records, a)
  | .ok () =>
    -- The sort is stable: trades of one second stay in the order of shards and rows.
    let trades := inOrder gathered.trades
    match rollingDeviation m (trades.map (·.price)) a.window with
    | .error crash => (.error (.crashed crash), gathered.records, a)
    | .ok deviations =>
      (.ok ⟨trades, deviations, gathered.tally, gathered.unreadable⟩, gathered.records, a)

namespace Series

def length (s : Series) : Nat := s.trades.length

def isEmpty (s : Series) : Bool := s.trades.isEmpty

def points (s : Series) : List PricePoint := s.trades.map Trade.point

/-- Every trade with its deviation. -/
def withDeviations (s : Series) : List (Trade × Option Float) := s.trades.zip s.deviations

/-- **Deviation at a trade**: there is none before the window fills, and none past the end. -/
def deviationAt (s : Series) (index : Nat) : Outcome Float :=
  match s.deviations[index]? with
  | some (some deviation) => .ok deviation
  | some none =>
    .error (.insufficientData s!"rolling MAD undefined at index {index} before the window fills")
  | none => .error (.data s!"index {index} out of range for series of {s.length}")

/-- The candles of a series, up to the one that covers the end time. -/
def candles (s : Series) (period : Int) (threshold : Option Float) (endTime : Int) :
    Except Halt (List Candle) :=
  buildCandles s.withDeviations period threshold endTime

end Series
end SwapArchive
