import SwapArchive.Failure
import SwapArchive.Log
import SwapArchive.Text.Ascii
import SwapArchive.Text.Blank
import SwapArchive.Text.Integer
import SwapArchive.Text.LowerCase
import SwapArchive.Swap.Trade

/-!
# Configuration

What the archive is told: where swaps come from, where shards are kept, which pair is of interest
and how series are built. A configuration comes from a file, is overridden by variables of the
environment, and is validated before use.
-/

namespace SwapArchive

/-- The greatest number of swaps on a page. -/
def pageLimit : Nat := 1000

/-- Where swaps come from. -/
structure SourceConfig where
  url : String := "https://api.thegraph.com/subgraphs/name/uniswap/uniswap-v3"
  pools : List String := [
    "0x7bea39867e4169dbe237d55c8242a8f2fcdcc387",
    "0x8ad599c3a0ff1de082011efddc58f1908eb6e6d8",
    "0x88e6a0c2ddd26feeb64f039a2c41296fcb3f5640",
    "0xe0554a476a092703abdb3ef35c80e0d76d32939f"]
  pageSize : Nat := pageLimit
  timeoutSeconds : Nat := 30
  maxRetries : UInt32 := 3
  retryBaseMillis : UInt64 := 500
  deriving Inhabited

/-- Where shards are kept, from which time on, and when they are synced. -/
structure ShardConfig where
  directory : String := "./db/shards"
  initialTime : Int := 1672531200
  syncHour : Nat := 1
  deriving Inhabited

/-- The pair of tokens that series are built for. -/
structure PairConfig where
  base : String := "0xc02aaa39b223fe8d0a0e5c4f27ead9083c756cc2"
  quote : String := "0xa0b86991c6218b36c1d19d4a2e9eb0ce3606eb48"
  convention : PriceConvention := .quotePerBase
  deriving Inhabited

/-- How series and candles are built. -/
structure SeriesConfig where
  madWindow : Nat := 50
  candlePeriod : Int := 3600
  madThreshold : Option Float := none
  deriving Inhabited

structure Config where
  source : SourceConfig := {}
  shards : ShardConfig := {}
  pair : PairConfig := {}
  series : SeriesConfig := {}
  deriving Inhabited

def splitCommas (s : String) : List String := s.splitOn ","

/-- A list of pools from one text: names between commas, in lower case, without blanks around
them; empty names do not count. -/
def poolList (s : String) : List String :=
  ((splitCommas s).map fun p => Text.toLower (Text.trim p)).filter (!·.isEmpty)

namespace Config

/-- The variables that override configured values. -/
def variableNames : List String := [
  "SWAPSHARD_SUBGRAPH_URL", "SWAPSHARD_POOLS", "UNISWAP_SHARDS_PATH", "UNISWAP_INITIAL_TIMESTAMP",
  "SWAPSHARD_BASE_ASSET", "SWAPSHARD_QUOTE_ASSET"]

/-- **Override**: values of the environment take the place of configured ones. A time that is no
integer is refused, and the values that come after it are left alone. -/
def override (c : Config) (env : String → Option String) : Config × Outcome Unit :=
  let c := match env "SWAPSHARD_SUBGRAPH_URL" with
    | some url => { c with source.url := url }
    | none => c
  let c := match env "SWAPSHARD_POOLS" with
    | some pools => { c with source.pools := poolList pools }
    | none => c
  let c := match env "UNISWAP_SHARDS_PATH" with
    | some path => { c with shards.directory := path }
    | none => c
  -- These come after the time, and are left alone if it is no integer.
  let withPair (c : Config) : Config × Outcome Unit :=
    let c := match env "SWAPSHARD_BASE_ASSET" with
      | some base => { c with pair.base := base }
      | none => c
    let c := match env "SWAPSHARD_QUOTE_ASSET" with
      | some quote => { c with pair.quote := quote }
      | none => c
    (c, .ok ())
  match env "UNISWAP_INITIAL_TIMESTAMP" with
  | none => withPair c
  | some text =>
    match Text.readInteger .signed64 (Text.trim text) with
    | .ok time => withPair { c with shards.initialTime := time }
    | .error _ =>
      (c, .error (.config s!"UNISWAP_INITIAL_TIMESTAMP is not an integer: {text}"))

/-- What is wrong with a configuration, if anything is: the first fault in the order of the
sections. -/
def fault? (c : Config) : Option String :=
  if c.source.url.isEmpty then some "subgraph url is empty"
  else if c.source.pools.isEmpty then some "no pools configured"
  else if c.source.pageSize = 0 ∨ pageLimit < c.source.pageSize then
    some s!"page_size must be within 1..={pageLimit}, got {c.source.pageSize}"
  else if c.source.timeoutSeconds = 0 then some "request_timeout_secs must be positive"
  else if Text.sameIgnoringCase c.pair.base c.pair.quote then
    some "base and quote asset are the same"
  else if c.series.madWindow = 0 then some "mad_window must be at least 1"
  else if c.series.candlePeriod ≤ 0 then some "candle_period_secs must be positive"
  else none

def lastHour : Nat := 23

/-- What is reported of an hour that no day has. -/
def hourRecord (hour : Nat) : Log.Record :=
  .warn "invalid sync hour, defaulting to 23" [("hour", toString hour)]

/-- **Validation**: a configuration without faults, its sync hour an hour of the day, and what was
mended. -/
def validate (c : Config) : Outcome (Config × List Log.Record) :=
  match c.fault? with
  | some fault => .error (.config fault)
  | none =>
    if lastHour < c.shards.syncHour then
      .ok ({ c with shards.syncHour := lastHour }, [hourRecord c.shards.syncHour])
    else .ok (c, [])

end Config
end SwapArchive
