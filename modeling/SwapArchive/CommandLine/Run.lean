import SwapArchive.CommandLine.Help
import SwapArchive.CommandLine.Trouble
import SwapArchive.Config.Json
import SwapArchive.Environment.File
import SwapArchive.Series.Csv
import SwapArchive.Series.Shards
import SwapArchive.Shard.Sync
import SwapArchive.Source.Client

/-!
# Running commands

A command works on a tree of files and on the endpoint that swaps are fetched from. The
configuration is read and validated before the command starts.
-/

namespace SwapArchive.CommandLine

open Log (Record)

/-- What commands work on. -/
structure Session where
  tree : Tree
  endpoint : Endpoint

/-- What came of a task: its output or why it failed, what was reported, and the session left. -/
structure Finished where
  output : Except Trouble String
  records : List Record
  session : Session

/-- The variables that have a meaning for commands. -/
def knownVariables : List String :=
  Request.configVariable :: HelpTopic.styleVariables.1 :: HelpTopic.styleVariables.2
    :: Config.variableNames ++ Proxies.variableNames

def variablesFile : String := ".env"

/-- **Environment** of a command: the given one, with the file of variables; none if a value there
cannot be given. -/
def Session.environment? (s : Session) (env : Environment) : Option Environment :=
  match s.tree.contentAt variablesFile with
  | .ok (.text bytes) =>
    match Text.decode? bytes with
    | some text => env.extend? text
    -- A file that is no text is passed over.
    | none => some env
  | _ => some env

def readText (t : Tree) (path : String) : Outcome (List UInt8) :=
  match t.contentAt path with
  | .ok .nothing => .ok []
  | .ok (.text bytes) => .ok bytes
  | .ok (.table _) => .error (.io "stream did not contain valid UTF-8")
  | .error f => .error f

/-- The configuration in a file, or the default one if there is no path. -/
def readConfig (t : Tree) : Option String → Except Trouble Config
  | none => .ok {}
  | some path =>
    match readText t path >>= Config.ofBytes with
    | .ok c => .ok c
    | .error f => .error (.failedAt s!"failed to load config from {path}" f)

/-- **Configuration** of a command: from its file, overridden by the environment, and valid. -/
def loadConfig (t : Tree) (env : Environment) (path : Option String) :
    Except Trouble (Config × List Record) := do
  let c ← readConfig t path
  let (c, overridden) := c.override env.value?
  match overridden with
  | .error f => .error (.failed f)
  | .ok () =>
    match c.validate with
    | .error f => .error (.failed f)
    | .ok validated => .ok validated

/-- What tasks are run with: the configuration, the proxies, the machine, the present time, and the
draws that move the delays of a retry policy. -/
structure Setting where
  config : Config
  proxies : Proxies
  machine : Machine
  now : Int
  draw : RetryPolicy → Nat → UInt64

namespace Setting

def source (setting : Setting) : Source Endpoint :=
  let client := { Client.ofConfig setting.config.source with proxies := setting.proxies }
  client.source (setting.draw client.retry)

/-- Fetches swaps into the table of a shard. -/
def fetchInto (setting : Setting) (shard : Shard) (table : Table) (path : String)
    (lowerBound asOf : Option Int) (tree : Tree) (endpoint : Endpoint) : Finished :=
  let (start, resumed) : Int × List Record :=
    match asOf with
    | some time => (time, [])
    | none =>
      let (time, resumed) := Fetch.startTime table setting.now
      (time, [resumed])
  let cursor : Fetch.Cursor := ⟨start, lowerBound.getD setting.config.shards.initialTime⟩
  let medium := { Fetch.Medium.ofTable table with writing := shard.writing }
  let finished := Fetch.run setting.source false cursor medium endpoint
  let filled := finished.medium.table
  let reason := finished.report.reason
  let stopped : Trouble := .stopped ("fetch stopped: " ++ reason.message)
  -- What was written is saved, whether the run has failed or not.
  { output := if reason.isError then .error stopped else .ok ""
    records := openedRecord path :: resumed ++ finished.notices.map (Fetch.Notice.toRecord path)
      ++ [.info "shard row count" [("shard", path), ("stored", toString filled.count)]]
    session := ⟨tree.save { shard with content := .table filled }, finished.source⟩ }

/-- **Fetch**: fetches swaps into one shard, from the given time or the oldest stored one, or else
from the present. -/
def fetch (setting : Setting) (path : String) (lowerBound asOf : Option Int) (s : Session) :
    Finished :=
  let failed (f : Failure) (tree : Tree) : Finished :=
    ⟨.error (.failedAt s!"failed to open shard {path}" f), [], { s with tree := tree }⟩
  match s.tree.openShard path with
  | (.error f, tree) => failed f tree
  | (.ok shard, tree) =>
    match shard.table? with
    | .error f => failed f tree
    | .ok table => setting.fetchInto shard table path lowerBound asOf tree s.endpoint

/-- The label of a sync in log records. -/
def syncLabel : String := "shard syncer"

/-- The first day that is not complete, as the reason to stop. -/
def incompleteDay? (outcomes : List (Day × Sync.DayOutcome)) : Option Trouble :=
  outcomes.findSome? fun (day, outcome) =>
    match outcome with
    | .incomplete report =>
      some (.stopped s!"shard {day.name} incomplete: {report.reason.message}")
    | _ => none

/-- What is reported of a sync of complete days. -/
def syncedRecord (outcomes : List (Day × Sync.DayOutcome)) : Record :=
  let skipped := (outcomes.filter (·.2 = .skipped)).length
  .info "shard sync finished" [
    ("finalized", toString (outcomes.length - skipped)),
    ("skipped", toString skipped)]

/-- **Sync**: fetches every planned day that is not complete yet. -/
def sync (setting : Setting) (s : Session) : Finished :=
  let shards := setting.config.shards
  let result := Sync.syncSince setting.source shards.directory shards.initialTime setting.now
    ⟨s.tree, s.endpoint, 0, fun _ => none⟩
  let records := result.notices.map (Fetch.Notice.toRecord syncLabel)
  let session : Session := ⟨result.state.tree, result.state.source⟩
  match result.outcome with
  | .error f => ⟨.error (.failed f), records, session⟩
  | .ok outcomes =>
    match incompleteDay? outcomes with
    | some trouble => ⟨.error trouble, records, session⟩
    | none => ⟨.ok "", records ++ [syncedRecord outcomes], session⟩

/-- What is reported of a series that has been built. -/
def builtRecord (s : Series) : Record :=
  .info "series built" [
    ("trades", toString s.length),
    ("kept", toString s.tally.kept),
    ("total", toString s.tally.total)]

/-- The series of the shards in a directory, and what was reported. -/
def buildSeries (setting : Setting) (directory : Option String) (t : Tree) :
    Except Trouble Series × List Record :=
  let directory := directory.getD setting.config.shards.directory
  match t.openShards directory with
  | (.error f, records) => (.error (.failedAt s!"failed to open shards in {directory}" f), records)
  | (.ok shards, records) =>
    let aggregator := Aggregator.ofConfig setting.config
    match aggregator.aggregate setting.machine (shards.map Shard.rows) with
    | (.error halt, more, _) => (.error (.ofHalt halt), records ++ more)
    | (.ok series, more, _) => (.ok series, records ++ more ++ [builtRecord series])

/-- The candles that are asked for, as text. -/
def candleText (setting : Setting) (choice : CandleChoice) (series : Series) :
    Except Trouble String :=
  let period := choice.period.getD setting.config.series.candlePeriod
  let threshold := choice.threshold.or setting.config.series.madThreshold
  let reference := choice.reference.getD setting.now
  match series.candles period threshold reference with
  | .error halt => .error (.ofHalt halt)
  | .ok candles =>
    -- Without a limit there are as many as there are candles.
    let latest := latestCandles candles (choice.limit.getD candles.length) reference
    .ok ((Json.Value.list (latest.map Candle.toJson)).pretty ++ "\n")

/-- **Running a task**. -/
def runTask (setting : Setting) (s : Session) : Task → Finished
  | .fetch path lowerBound asOf => setting.fetch path lowerBound asOf s
  | .sync => setting.sync s
  | .series directory =>
    let (series, records) := setting.buildSeries directory s.tree
    ⟨series >>= fun built => built.csv.mapError .failed, records, s⟩
  | .candles choice =>
    let (series, records) := setting.buildSeries choice.directory s.tree
    ⟨series >>= setting.candleText choice, records, s⟩

end Setting

/-- What a command line leads to. -/
inductive Start where
  /-- A help page to be shown. -/
  | help (text : String)
  | misuse
  | refused (trouble : Trouble)
  /-- A command to be run, its configuration and proxies, and what was reported of that. -/
  | ready (command : Command) (config : Config) (proxies : Proxies) (records : List Record)

/-- **Start**: reads a command line and the configuration that it names. -/
def start (s : Session) (env : Environment) (args : List String) : Start :=
  match s.environment? env with
  | none => .refused .unfitValue
  | some env =>
    match Request.ofArguments env args with
    | .help topic => .help (topic.shown env)
    | .misuse => .misuse
    | .run path command =>
      match loadConfig s.tree env path with
      | .error trouble => .refused trouble
      | .ok (config, records) => .ready command config (.ofEnvironment env) records

end SwapArchive.CommandLine
