import SwapArchive.CommandLine.Document
import Std.Time

/-!
# Command line

The session is read from standard input, as one line. A task that prints something prints it; any
other task prints the files that it leaves. Reports go to standard error.
-/

open SwapArchive SwapArchive.CommandLine

/-- The seconds since the start of 1970. -/
def presentSeconds : IO Int := do
  return (← Std.Time.Timestamp.now).toSecondsSinceUnixEpoch.val

/-- The variables of the environment that have a meaning. -/
def readEnvironment : IO Environment := do
  let values ← knownVariables.mapM fun name => do
    return (← IO.getEnv name).map fun value => (name, value)
  return ⟨values.filterMap id⟩

/-- Prints what was reported of a task. -/
def printRecords (records : List Log.Record) : IO Unit :=
  records.forM fun record => do
    if record.level != .debug then IO.eprintln record.line

/-- Prints why a command failed. Its code is that of a program ended by a signal if it has none. -/
def printTrouble (trouble : Trouble) : IO UInt32 := do
  IO.eprint trouble.text
  return UInt32.ofNat (trouble.exitCode?.getD 134)

/-- Prints what came of a task. The code tells whether it failed. -/
def printFinished (finished : Finished) : IO UInt32 := do
  printRecords finished.records
  match finished.output with
  | .ok "" =>
    IO.println finished.session.filesText
    return 0
  | .ok output =>
    IO.print output
    return 0
  | .error trouble => printTrouble trouble

/-- The machine of the command line, which is given as much memory as there are addresses. -/
def presentMachine : Machine := .ordering addressLimit

/-- Runs a task at the present time. -/
def runNow (config : Config) (proxies : Proxies) (s : Session) (task : Task) : IO Finished := do
  let setting : Setting :=
    ⟨config, proxies, presentMachine, ← presentSeconds, RetryPolicy.centred⟩
  return setting.runTask s task

/-- Waits for the hour of the daily sync, at least as many seconds as given, and runs it, day after
day. -/
partial def runDaily (config : Config) (proxies : Proxies) (hour : Nat) (least : Nat)
    (s : Session) : IO UInt32 := do
  let wait := syncDelay (← presentSeconds) 0 hour
  IO.sleep (UInt32.ofNat (1000 * max wait.seconds least))
  let finished ← runNow config proxies s .sync
  discard (printFinished finished)
  runDaily config proxies hour 1 finished.session

/-- Runs a command line. -/
def main (args : List String) : IO UInt32 := do
  let line ← (← IO.getStdin).getLine
  match Session.ofText line with
  | .error e =>
    IO.eprintln e.message
    return 1
  | .ok s =>
    match start s (← readEnvironment) args with
    | .help text =>
      IO.print text
      return 0
    | .misuse =>
      IO.eprint (HelpTopic.program.shown (← readEnvironment))
      return 2
    | .refused trouble => printTrouble trouble
    | .ready command config proxies records =>
      printRecords records
      match command with
      | .once task => printFinished (← runNow config proxies s task)
      | .daily hour => runDaily config proxies (hour.getD config.shards.syncHour) 0 s
