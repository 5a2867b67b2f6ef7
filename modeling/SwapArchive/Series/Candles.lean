import SwapArchive.Failure
import SwapArchive.Swap.Basic
import SwapArchive.Swap.Trade

/-!
# Candles

Trades are summed up in candles of equal periods, one after the other without a gap. The first
candle opens at its first trade, every later one where the one before closed; a period without
trades becomes a flat candle.

A price far from the open and the close of its candle can be kept out of the candle's extremes: its
distance from the two, measured in deviations, must not exceed a threshold.

Times are kept in words of 64 bits and trades are counted in words of 32 bits. A time that does not
fit ends the program; the number of trades begins again at zero.
-/

namespace SwapArchive

/-- The lesser of two floats; the other one if one is not a number. -/
def lesser (a b : Float) : Float := if a.isNaN then b else if b < a then b else a

/-- The greater of two floats; the other one if one is not a number. -/
def greater (a b : Float) : Float := if a.isNaN then b else if a < b then b else a

/-- **Band**: prices between open and close are within it. Beyond, the distance in deviations must
not exceed the threshold; without a deviation every price is within. -/
def withinBand (price : Float) (deviation : Option Float) (opening closing threshold : Float) :
    Bool :=
  let low := lesser opening closing
  let high := greater opening closing
  let beyond : Option Float :=
    if price < low then some (low - price)
    else if price > high then some (price - high)
    else none
  match beyond, deviation with
  | some distance, some deviation => distance / deviation ≤ threshold
  | _, _ => true

/-- A candle that still takes trades, with the prices and deviations of its trades. -/
structure FormingCandle where
  time : Int
  opening : Float
  closing : Float
  baseVolume : Float
  quoteVolume : Float
  trades : UInt32
  prices : List (Float × Option Float)
  deriving DecidableEq

namespace FormingCandle

def flat (time : Int) (price : Float) : FormingCandle := ⟨time, price, price, 0.0, 0.0, 0, []⟩

def add (c : FormingCandle) (t : Trade) (deviation : Option Float) : FormingCandle :=
  { c with
    closing := t.price
    baseVolume := c.baseVolume + t.base.abs
    quoteVolume := c.quoteVolume + t.quote.abs
    trades := c.trades + 1
    prices := c.prices ++ [(t.price, deviation)] }

/-- Whether the price of a trade counts for the extremes. Without a threshold every one does. -/
def counts (c : FormingCandle) (threshold : Option Float) (price : Float × Option Float) : Bool :=
  match threshold with
  | some threshold => withinBand price.1 price.2 c.opening c.closing threshold
  | none => true

def countedPrices (c : FormingCandle) (threshold : Option Float) : List Float :=
  (c.prices.filter (c.counts threshold)).map (·.1)

/-- **Closing** a candle: its extremes are those of the open and the prices that count. -/
def close (c : FormingCandle) (period : Int) (threshold : Option Float) : Candle where
  time := c.time
  period := period
  opening := c.opening
  closing := c.closing
  least := (c.countedPrices threshold).foldl lesser c.opening
  greatest := (c.countedPrices threshold).foldl greater c.opening
  baseVolume := c.baseVolume
  quoteVolume := c.quoteVolume
  trades := c.trades

/-- The flat candle of the period after this one. -/
def next (c : FormingCandle) (period : Int) : FormingCandle := flat (c.time + period) c.closing

end FormingCandle

/-- The candles built so far: the one that still takes trades, and those that are closed. Periods
are positive. -/
structure CandleBuilder where
  period : Int
  threshold : Option Float
  forming : Option FormingCandle
  closed : Array Candle
  period_pos : 0 < period
  deriving DecidableEq

namespace CandleBuilder

def ofPeriod (period : Int) (threshold : Option Float) : Outcome CandleBuilder :=
  if hPeriod : 0 < period then .ok ⟨period, threshold, none, #[], hPeriod⟩
  else .error (.config s!"candle period must be positive, got {period}")

/-- **Closing candles**: the given one and the flat ones after it, as long as they end at the bucket
or before. Returns the candle that is then forming. -/
def closeThrough (b : CandleBuilder) (c : FormingCandle) (bucket : Int) (closed : Array Candle) :
    Except Crash (FormingCandle × Array Candle) := do
  -- The end of the candle is computed before it is compared, and has to fit.
  discard (inWord "add" (c.time + b.period))
  if c.time + b.period ≤ bucket then
    closeThrough b (c.next b.period) bucket (closed.push (c.close b.period b.threshold))
  else return (c, closed)
termination_by (bucket - c.time).toNat
decreasing_by
  have hPeriod := b.period_pos
  simp only [FormingCandle.next, FormingCandle.flat]
  omega

/-- A trade taken by the candle of its bucket. The candles from the given one up to it are
closed. -/
def takeTrade (b : CandleBuilder) (c : FormingCandle) (bucket : Int) (t : Trade)
    (deviation : Option Float) : Except Crash CandleBuilder := do
  let (c, closed) ← b.closeThrough c bucket b.closed
  return { b with forming := some (c.add t deviation), closed := closed }

/-- **Offering a trade**, with the builder after it. The candle that is forming is taken out of the
builder. It goes back as it was if the trade comes too late for it, which is a failure. -/
def offerTrade (b : CandleBuilder) (t : Trade) (deviation : Option Float) :
    Except Crash (Outcome Unit × CandleBuilder) := do
  let bucket ← bucketOf t.timestamp b.period
  let emptied := { b with forming := none }
  match b.forming with
  | none => return (.ok (), ← emptied.takeTrade (.flat bucket t.price) bucket t deviation)
  | some c =>
    -- The candle goes back as it was, so that a late trade changes nothing.
    if bucket < c.time then
      return (.error (.data s!"trade at {t.timestamp} precedes open candle at {c.time}"),
        { emptied with forming := some c })
    else return (.ok (), ← emptied.takeTrade c bucket t deviation)

/-- **Trade**: added to the candle of its time, which must not be closed yet. -/
def addTrade (b : CandleBuilder) (t : Trade) (deviation : Option Float) :
    Except Halt CandleBuilder := do
  let (ended, b) ← (b.offerTrade t deviation).mapError .crashed
  (ended.map fun () => b).mapError .failed

/-- **Time passing**: closes candles until the one forming covers a time. -/
def advanceTo (b : CandleBuilder) (time : Int) : Except Crash CandleBuilder := do
  let bucket ← bucketOf time b.period
  match b.forming with
  | none => return b
  | some c =>
    let (c, closed) ← b.closeThrough c bucket b.closed
    return { b with forming := some c, closed := closed }

/-- All candles, the forming one closed. -/
def finish (b : CandleBuilder) : List Candle :=
  match b.forming with
  | none => b.closed.toList
  | some c => (b.closed.push (c.close b.period b.threshold)).toList

/-- Adds trades with their deviations, up to the first that is refused. -/
def addTrades (b : CandleBuilder) : List (Trade × Option Float) → Except Halt CandleBuilder
  | [] => .ok b
  | (t, deviation) :: rest => do
    let b ← b.addTrade t deviation
    b.addTrades rest

end CandleBuilder

/-- **Candles of trades**, carried on to the candle that covers the end time. -/
def buildCandles (trades : List (Trade × Option Float)) (period : Int) (threshold : Option Float)
    (endTime : Int) : Except Halt (List Candle) := do
  let b ← (CandleBuilder.ofPeriod period threshold).mapError .failed
  let b ← b.addTrades trades
  return (← (b.advanceTo endTime).mapError .crashed).finish

/-- **Latest candles**: the last `count` of those that start at a time or before. -/
def latestCandles (candles : List Candle) (count : Nat) (reference : Int) : List Candle :=
  let past := candles.takeWhile (·.time ≤ reference)
  -- The subtraction stops at zero: if there are fewer, all of them are taken.
  past.drop (past.length - count)

end SwapArchive
