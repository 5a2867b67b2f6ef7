import SwapArchive.Json.Printer
import SwapArchive.Json.Record
import SwapArchive.Swap.Basic
import SwapArchive.Swap.Trade

/-!
# Swaps and trades as JSON

Swaps reach the archive as JSON and are stored as JSON. The order of the members is fixed, members
that are absent are left out, and the time is written as text. When a swap is read, the time may be
an integer or the text of one.

## Design notes

A record is read into a draft that has room for each field, so that a second value for a field can
be told from a first one.
-/

namespace SwapArchive

open Json (Reader Limits Shape Value)
open Text (IntegerRange)

/-- The fields of a leg read so far. -/
structure Leg.Draft where
  address : Option String := none
  symbol : Option String := none

/-- A leg: an address, and a symbol that may be absent. -/
def Leg.shape : Shape Leg.Draft Leg where
  title := "AssetLeg"
  blank := {}
  fields := [
    .of "id" true (·.address) (fun d a => { d with address := some a }) Json.readString,
    .of "symbol" false (·.symbol) (fun d a => { d with symbol := some a }) Json.readString]
  build d := do return ⟨← Json.needed "id" d.address, d.symbol.getD ""⟩

def Leg.read (limits : Limits) : Reader Leg := Json.readRecord Leg.shape limits

def readOptionalString (limits : Limits) : Reader (Option String) :=
  Json.readOptional (Json.readString limits)

/-- The fields of a transaction read so far. -/
structure Transaction.Draft where
  hash : Option String := none
  block : Option (Option String) := none

/-- A transaction: a hash, and a block that may be absent. -/
def Transaction.shape : Shape Transaction.Draft Transaction where
  title := "TransactionRef"
  blank := {}
  fields := [
    .of "id" true (·.hash) (fun d a => { d with hash := some a }) Json.readString,
    .of "blockNumber" false (·.block) (fun d a => { d with block := some a }) readOptionalString]
  build d := do return ⟨← Json.needed "id" d.hash, d.block.getD none⟩

def Transaction.read (limits : Limits) : Reader Transaction :=
  Json.readRecord Transaction.shape limits

/-- The fields of a pool read so far. -/
structure Pool.Draft where
  address : Option String := none
  token0 : Option Leg := none
  token1 : Option Leg := none

/-- A pool: an address and two legs. -/
def Pool.shape : Shape Pool.Draft Pool where
  title := "PoolRef"
  blank := {}
  fields := [
    .of "id" true (·.address) (fun d a => { d with address := some a }) Json.readString,
    .of "token0" true (·.token0) (fun d a => { d with token0 := some a }) Leg.read,
    .of "token1" true (·.token1) (fun d a => { d with token1 := some a }) Leg.read]
  build d := do
    return ⟨← Json.needed "id" d.address, ← Json.needed "token0" d.token0,
      ← Json.needed "token1" d.token1⟩

def Pool.read (limits : Limits) : Reader Pool := Json.readRecord Pool.shape limits

/-- **Time of a swap**: an integer, or the text of one with white space around it. -/
def timeOfLoose : Json.Loose → Except Json.Cause Int
  | .integer n =>
    if IntegerRange.signed64.contains n then .ok n
    else .error (.unsuitable "data did not match any variant of untagged enum Repr")
  | .text s =>
    match Text.readInteger .signed64 (Text.trim s) with
    | .ok n => .ok n
    | .error fault => .error (.unsuitable fault.message)
  | .other => .error (.unsuitable "data did not match any variant of untagged enum Repr")

/-- The fields of a swap read so far. -/
structure Swap.Draft where
  id : Option String := none
  transaction : Option Transaction := none
  pool : Option Pool := none
  sender : Option (Option String) := none
  recipient : Option (Option String) := none
  amount0 : Option String := none
  amount1 : Option String := none
  timestamp : Option Int := none

/-- The field for the time of a swap. -/
def Swap.timestampField : Json.Field Swap.Draft where
  name := "timestamp"
  required := true
  isGiven d := d.timestamp.isSome
  read limits d := do
    match timeOfLoose (← Json.readLoose limits) with
    | .ok n => return .ok { d with timestamp := some n }
    | .error fault => return .error fault

/-- A swap: sender and recipient may be absent. -/
def Swap.shape : Shape Swap.Draft Swap where
  title := "SwapPayload"
  blank := {}
  fields := [
    .of "id" true (·.id) (fun d a => { d with id := some a }) Json.readString,
    .of "transaction" true (·.transaction) (fun d a => { d with transaction := some a })
      Transaction.read,
    .of "pool" true (·.pool) (fun d a => { d with pool := some a }) Pool.read,
    .of "sender" false (·.sender) (fun d a => { d with sender := some a }) readOptionalString,
    .of "recipient" false (·.recipient) (fun d a => { d with recipient := some a })
      readOptionalString,
    .of "amount0" true (·.amount0) (fun d a => { d with amount0 := some a }) Json.readString,
    .of "amount1" true (·.amount1) (fun d a => { d with amount1 := some a }) Json.readString,
    Swap.timestampField]
  build d := do
    let id ← Json.needed "id" d.id
    let transaction ← Json.needed "transaction" d.transaction
    let pool ← Json.needed "pool" d.pool
    let amount0 ← Json.needed "amount0" d.amount0
    let amount1 ← Json.needed "amount1" d.amount1
    let timestamp ← Json.needed "timestamp" d.timestamp
    return ⟨id, transaction, pool, d.sender.getD none, d.recipient.getD none, amount0, amount1,
      timestamp⟩

def Swap.read (limits : Limits) : Reader Swap := Json.readRecord Swap.shape limits

def Swap.ofText (s : String) : Except Json.Error Swap := Json.readDocument Swap.read (Text.encode s)

def Leg.toJson (leg : Leg) : Value :=
  .object [("id", .text leg.address), ("symbol", .text leg.symbol)]

/-- A member that is left out if there is nothing to write. -/
def optionalMember (name : String) : Option String → List (String × Value)
  | none => []
  | some s => [(name, .text s)]

def Transaction.toJson (t : Transaction) : Value :=
  .object (("id", .text t.hash) :: optionalMember "blockNumber" t.block)

def Pool.toJson (p : Pool) : Value :=
  .object [("id", .text p.address), ("token0", p.token0.toJson), ("token1", p.token1.toJson)]

def Swap.toJson (s : Swap) : Value :=
  .object (
    [("id", .text s.id), ("transaction", s.transaction.toJson), ("pool", s.pool.toJson)]
      ++ optionalMember "sender" s.sender ++ optionalMember "recipient" s.recipient
      ++ [("amount0", .text s.amount0), ("amount1", .text s.amount1),
        ("timestamp", .text (toString s.timestamp))])

/-- **Stored form** of a swap. -/
def Swap.stored (s : Swap) : String := s.toJson.compact

/-- Reads an integer of 64 bits with a sign. -/
def readSigned64 (limits : Limits) : Reader Int := Json.readInteger limits .signed64 "i64"

/-- The fields of an entry read so far. -/
structure Entry.Draft where
  key : Option String := none
  swap : Option Swap := none
  time : Option Int := none

/-- An entry: a key, a swap and a time. -/
def Entry.shape : Shape Entry.Draft Entry where
  title := "RawTrade"
  blank := {}
  fields := [
    .of "trade_id" true (·.key) (fun d a => { d with key := some a }) Json.readString,
    .of "payload" true (·.swap) (fun d a => { d with swap := some a }) Swap.read,
    .of "event_time" true (·.time) (fun d a => { d with time := some a }) readSigned64]
  build d := do
    return ⟨← Json.needed "trade_id" d.key, ← Json.needed "payload" d.swap,
      ← Json.needed "event_time" d.time⟩

def Entry.read (limits : Limits) : Reader Entry := Json.readRecord Entry.shape limits

def Entry.toJson (e : Entry) : Value :=
  .object [("trade_id", .text e.key), ("payload", e.swap.toJson), ("event_time", .integer e.time)]

def PriceConvention.names : List (String × PriceConvention) :=
  [("quote_per_base", .quotePerBase), ("base_per_quote", .basePerQuote)]

def PriceConvention.name : PriceConvention → String
  | quotePerBase => "quote_per_base"
  | basePerQuote => "base_per_quote"

def PriceConvention.read (limits : Limits) : Reader PriceConvention :=
  Json.readVariant limits PriceConvention.names

def PriceConvention.toJson (c : PriceConvention) : Value := .text c.name

/-- The fields of a trade read so far. -/
structure Trade.Draft where
  base : Option Float := none
  quote : Option Float := none
  price : Option Float := none
  timestamp : Option Int := none

/-- A trade: two amounts, a price and a time. -/
def Trade.shape : Shape Trade.Draft Trade where
  title := "NormalizedTrade"
  blank := {}
  fields := [
    .of "base_amount" true (·.base) (fun d a => { d with base := some a }) Json.readFloat,
    .of "quote_amount" true (·.quote) (fun d a => { d with quote := some a }) Json.readFloat,
    .of "price" true (·.price) (fun d a => { d with price := some a }) Json.readFloat,
    .of "timestamp" true (·.timestamp) (fun d a => { d with timestamp := some a }) readSigned64]
  build d := do
    return ⟨← Json.needed "base_amount" d.base, ← Json.needed "quote_amount" d.quote,
      ← Json.needed "price" d.price, ← Json.needed "timestamp" d.timestamp⟩

def Trade.read (limits : Limits) : Reader Trade := Json.readRecord Trade.shape limits

def Trade.toJson (t : Trade) : Value :=
  .object [("base_amount", .float t.base), ("quote_amount", .float t.quote),
    ("price", .float t.price), ("timestamp", .integer t.timestamp)]

/-- The fields of a price point read so far. -/
structure PricePoint.Draft where
  timestamp : Option Int := none
  price : Option Float := none

/-- A price point: a time and a price. -/
def PricePoint.shape : Shape PricePoint.Draft PricePoint where
  title := "PricePoint"
  blank := {}
  fields := [
    .of "timestamp" true (·.timestamp) (fun d a => { d with timestamp := some a }) readSigned64,
    .of "price" true (·.price) (fun d a => { d with price := some a }) Json.readFloat]
  build d := do
    return ⟨← Json.needed "timestamp" d.timestamp, ← Json.needed "price" d.price⟩

def PricePoint.read (limits : Limits) : Reader PricePoint := Json.readRecord PricePoint.shape limits

def PricePoint.toJson (p : PricePoint) : Value :=
  .object [("timestamp", .integer p.timestamp), ("price", .float p.price)]

/-- The fields of a candle read so far. -/
structure Candle.Draft where
  time : Option Int := none
  period : Option Int := none
  opening : Option Float := none
  closing : Option Float := none
  least : Option Float := none
  greatest : Option Float := none
  baseVolume : Option Float := none
  quoteVolume : Option Float := none
  trades : Option Int := none

/-- A candle: its period, its prices, its volumes and the number of its trades. -/
def Candle.shape : Shape Candle.Draft Candle where
  title := "Candle"
  blank := {}
  fields := [
    .of "time" true (·.time) (fun d a => { d with time := some a }) readSigned64,
    .of "period" true (·.period) (fun d a => { d with period := some a }) readSigned64,
    .of "priceOpen" true (·.opening) (fun d a => { d with opening := some a }) Json.readFloat,
    .of "priceClose" true (·.closing) (fun d a => { d with closing := some a }) Json.readFloat,
    .of "minPrice" true (·.least) (fun d a => { d with least := some a }) Json.readFloat,
    .of "maxPrice" true (·.greatest) (fun d a => { d with greatest := some a }) Json.readFloat,
    .of "volumeBase" true (·.baseVolume) (fun d a => { d with baseVolume := some a })
      Json.readFloat,
    .of "volumeQuote" true (·.quoteVolume) (fun d a => { d with quoteVolume := some a })
      Json.readFloat,
    .of "tradeCount" true (·.trades) (fun d a => { d with trades := some a })
      (Json.readInteger · .unsigned32 "u32")]
  build d := do
    let time ← Json.needed "time" d.time
    let period ← Json.needed "period" d.period
    let opening ← Json.needed "priceOpen" d.opening
    let closing ← Json.needed "priceClose" d.closing
    let least ← Json.needed "minPrice" d.least
    let greatest ← Json.needed "maxPrice" d.greatest
    let baseVolume ← Json.needed "volumeBase" d.baseVolume
    let quoteVolume ← Json.needed "volumeQuote" d.quoteVolume
    let trades ← Json.needed "tradeCount" d.trades
    return ⟨time, period, opening, closing, least, greatest, baseVolume, quoteVolume,
      .ofNat trades.toNat⟩

def Candle.read (limits : Limits) : Reader Candle := Json.readRecord Candle.shape limits

def Candle.toJson (c : Candle) : Value :=
  .object [("time", .integer c.time), ("period", .integer c.period),
    ("priceOpen", .float c.opening), ("priceClose", .float c.closing),
    ("minPrice", .float c.least), ("maxPrice", .float c.greatest),
    ("volumeBase", .float c.baseVolume), ("volumeQuote", .float c.quoteVolume),
    ("tradeCount", .integer c.trades.toNat)]

end SwapArchive
