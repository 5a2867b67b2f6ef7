/-!
# Trades, prices and candles

A trade is a swap seen from one pair of tokens: how much of the base went one way and how much of
the quote the other, and at which price. Candles sum up the trades of one period.
-/

namespace SwapArchive

/-- Which token a price is counted in. -/
inductive PriceConvention where
  /-- Units of the quote for one of the base. -/
  | quotePerBase
  /-- Units of the base for one of the quote. -/
  | basePerQuote
  deriving DecidableEq, Repr, Inhabited

/-- **Price** of a trade with these amounts: their ratio, without its sign. -/
def PriceConvention.price (convention : PriceConvention) (base quote : Float) : Float :=
  match convention with
  | quotePerBase => (quote / base).abs
  | basePerQuote => (base / quote).abs

/-- A swap of the configured pair. -/
structure Trade where
  base : Float
  quote : Float
  price : Float
  timestamp : Int
  deriving DecidableEq, Inhabited

/-- A price and its time. -/
structure PricePoint where
  timestamp : Int
  price : Float
  deriving DecidableEq, Inhabited

def Trade.point (t : Trade) : PricePoint := ⟨t.timestamp, t.price⟩

/-- The trades of one period. -/
structure Candle where
  time : Int
  period : Int
  opening : Float
  closing : Float
  least : Float
  greatest : Float
  baseVolume : Float
  quoteVolume : Float
  trades : UInt32
  deriving DecidableEq, Inhabited

end SwapArchive
