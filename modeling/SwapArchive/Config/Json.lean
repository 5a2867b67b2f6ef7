import SwapArchive.Config.Basic
import SwapArchive.Swap.Json

/-!
# Configuration as JSON

Every section and every field may be absent, and then has its default value.
-/

namespace SwapArchive

open Json (Reader Limits Shape Value)

/-- The fields of a source section read so far. -/
structure SourceConfig.Draft where
  url : Option String := none
  pools : Option (List String) := none
  pageSize : Option Int := none
  timeoutSeconds : Option Int := none
  maxRetries : Option Int := none
  retryBaseMillis : Option Int := none

def SourceConfig.shape : Shape SourceConfig.Draft SourceConfig where
  title := "SubgraphConfig"
  blank := {}
  fields := [
    .of "url" false (·.url) (fun d a => { d with url := some a }) Json.readString,
    .of "pools" false (·.pools) (fun d a => { d with pools := some a })
      (Json.readList · Json.readString),
    .of "page_size" false (·.pageSize) (fun d a => { d with pageSize := some a })
      (Json.readInteger · .unsigned64 "usize"),
    .of "request_timeout_secs" false (·.timeoutSeconds)
      (fun d a => { d with timeoutSeconds := some a }) (Json.readInteger · .unsigned64 "u64"),
    .of "max_retries" false (·.maxRetries) (fun d a => { d with maxRetries := some a })
      (Json.readInteger · .unsigned32 "u32"),
    .of "retry_base_delay_ms" false (·.retryBaseMillis)
      (fun d a => { d with retryBaseMillis := some a }) (Json.readInteger · .unsigned64 "u64")]
  build d :=
    let standard : SourceConfig := {}
    .ok {
      url := d.url.getD standard.url
      pools := d.pools.getD standard.pools
      pageSize := (d.pageSize.map Int.toNat).getD standard.pageSize
      timeoutSeconds := (d.timeoutSeconds.map Int.toNat).getD standard.timeoutSeconds
      maxRetries := (d.maxRetries.map (UInt32.ofNat ·.toNat)).getD standard.maxRetries
      retryBaseMillis := (d.retryBaseMillis.map (UInt64.ofNat ·.toNat)).getD
        standard.retryBaseMillis }

/-- The fields of a shard section read so far. -/
structure ShardConfig.Draft where
  directory : Option String := none
  initialTime : Option Int := none
  syncHour : Option Int := none

def ShardConfig.shape : Shape ShardConfig.Draft ShardConfig where
  title := "ShardConfig"
  blank := {}
  fields := [
    .of "shards_path" false (·.directory) (fun d a => { d with directory := some a })
      Json.readString,
    .of "initial_timestamp" false (·.initialTime) (fun d a => { d with initialTime := some a })
      readSigned64,
    .of "sync_hour" false (·.syncHour) (fun d a => { d with syncHour := some a })
      (Json.readInteger · .unsigned32 "u32")]
  build d :=
    let standard : ShardConfig := {}
    .ok ⟨d.directory.getD standard.directory, d.initialTime.getD standard.initialTime,
      (d.syncHour.map Int.toNat).getD standard.syncHour⟩

/-- The fields of a pair section read so far. -/
structure PairConfig.Draft where
  base : Option String := none
  quote : Option String := none
  convention : Option PriceConvention := none

def PairConfig.shape : Shape PairConfig.Draft PairConfig where
  title := "PairConfig"
  blank := {}
  fields := [
    .of "base_asset" false (·.base) (fun d a => { d with base := some a }) Json.readString,
    .of "quote_asset" false (·.quote) (fun d a => { d with quote := some a }) Json.readString,
    .of "price_convention" false (·.convention) (fun d a => { d with convention := some a })
      PriceConvention.read]
  build d :=
    let standard : PairConfig := {}
    .ok ⟨d.base.getD standard.base, d.quote.getD standard.quote,
      d.convention.getD standard.convention⟩

/-- The fields of a series section read so far. -/
structure SeriesConfig.Draft where
  madWindow : Option Int := none
  candlePeriod : Option Int := none
  madThreshold : Option (Option Float) := none

def SeriesConfig.shape : Shape SeriesConfig.Draft SeriesConfig where
  title := "SeriesConfig"
  blank := {}
  fields := [
    .of "mad_window" false (·.madWindow) (fun d a => { d with madWindow := some a })
      (Json.readInteger · .unsigned64 "usize"),
    .of "candle_period_secs" false (·.candlePeriod) (fun d a => { d with candlePeriod := some a })
      readSigned64,
    .of "mad_filter_threshold" false (·.madThreshold)
      (fun d a => { d with madThreshold := some a })
      (fun limits => Json.readOptional (Json.readFloat limits))]
  build d :=
    let standard : SeriesConfig := {}
    .ok ⟨(d.madWindow.map Int.toNat).getD standard.madWindow,
      d.candlePeriod.getD standard.candlePeriod, d.madThreshold.getD standard.madThreshold⟩

/-- The sections of a configuration read so far. -/
structure Config.Draft where
  source : Option SourceConfig := none
  shards : Option ShardConfig := none
  pair : Option PairConfig := none
  series : Option SeriesConfig := none

def Config.shape : Shape Config.Draft Config where
  title := "Config"
  blank := {}
  fields := [
    .of "subgraph" false (·.source) (fun d a => { d with source := some a })
      (Json.readRecord SourceConfig.shape),
    .of "shards" false (·.shards) (fun d a => { d with shards := some a })
      (Json.readRecord ShardConfig.shape),
    .of "pair" false (·.pair) (fun d a => { d with pair := some a })
      (Json.readRecord PairConfig.shape),
    .of "series" false (·.series) (fun d a => { d with series := some a })
      (Json.readRecord SeriesConfig.shape)]
  build d := .ok ⟨d.source.getD {}, d.shards.getD {}, d.pair.getD {}, d.series.getD {}⟩

def Config.read (limits : Limits) : Reader Config := Json.readRecord Config.shape limits

def Config.ofText (s : String) : Except Json.Error Config :=
  Json.readDocument Config.read (Text.encode s)

/-- **Configuration file**: its bytes have to be text, and the text a configuration. -/
def Config.ofBytes (bytes : List UInt8) : Outcome Config :=
  match Text.decode? bytes with
  | none => .error (.io "stream did not contain valid UTF-8")
  | some s =>
    match Config.ofText s with
    | .ok c => .ok c
    | .error e => .error (.json e.message)

def Config.toJson (c : Config) : Value :=
  .object [
    ("subgraph", .object [
      ("url", .text c.source.url),
      ("pools", .list (c.source.pools.map .text)),
      ("page_size", .integer c.source.pageSize),
      ("request_timeout_secs", .integer c.source.timeoutSeconds),
      ("max_retries", .integer c.source.maxRetries.toNat),
      ("retry_base_delay_ms", .integer c.source.retryBaseMillis.toNat)]),
    ("shards", .object [
      ("shards_path", .text c.shards.directory),
      ("initial_timestamp", .integer c.shards.initialTime),
      ("sync_hour", .integer c.shards.syncHour)]),
    ("pair", .object [
      ("base_asset", .text c.pair.base),
      ("quote_asset", .text c.pair.quote),
      ("price_convention", c.pair.convention.toJson)]),
    ("series", .object [
      ("mad_window", .integer c.series.madWindow),
      ("candle_period_secs", .integer c.series.candlePeriod),
      ("mad_filter_threshold", match c.series.madThreshold with
        | some x => .float x
        | none => .null)])]

end SwapArchive
