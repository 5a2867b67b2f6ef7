import SwapArchive.Decimal.Literal
import SwapArchive.Environment.Basic
import SwapArchive.Text.Integer

/-!
# Arguments of the command line

A command line names a command and its parameters. A parameter is written as `--name value` or
`--name=value`, and the one for the configuration file also as `-c value`; that one may stand
before the command or after it, and may come from the environment.
-/

namespace SwapArchive.CommandLine

/-- Which candles are to be printed. What is not given comes from the configuration. -/
structure CandleChoice where
  directory : Option String
  period : Option Int
  limit : Option Nat
  reference : Option Int
  threshold : Option Float
  deriving DecidableEq

/-- What can be done at once. -/
inductive Task where
  /-- Fetch swaps into one shard. -/
  | fetch (shard : String) (lowerBound asOf : Option Int)
  /-- Fetch every complete day into a shard of its own. -/
  | sync
  /-- Print a price series. -/
  | series (directory : Option String)
  /-- Print candles. -/
  | candles (choice : CandleChoice)
  deriving DecidableEq

/-- A task to be done once, or a sync to be done every day at an hour. -/
inductive Command where
  | once (task : Task)
  | daily (hour : Option Nat)
  deriving DecidableEq

inductive Parameter where
  | config
  | shard
  | lowerBound
  | asOf
  | hour
  | directory
  | period
  | limit
  | reference
  | threshold
  deriving DecidableEq, Repr

def readPath? (s : String) : Option String := if s.isEmpty then none else some s

/-- A time or a span of time. -/
def readTime? (s : String) : Option Int := (Text.readInteger .signed64 s).toOption

/-- A number of candles. -/
def readCount? (s : String) : Option Nat := (Text.readInteger .unsigned64 s).toOption.map Int.toNat

/-- The greatest number of an hour that is understood. -/
def greatestHour : Int := 4294967295

def readHour? (s : String) : Option Nat :=
  match readTime? s with
  | some hour => if 0 ≤ hour ∧ hour ≤ greatestHour then some hour.toNat else none
  | none => none

namespace Parameter

def name : Parameter → String
  | config => "config"
  | shard => "db"
  | lowerBound => "lower-bound"
  | asOf => "as-of"
  | hour => "hour"
  | directory => "shards"
  | period => "period"
  | limit => "limit"
  | reference => "reference-time"
  | threshold => "mad-threshold"

/-- Whether a text can be the value of a parameter. -/
def accepts (p : Parameter) (s : String) : Bool :=
  match p with
  | config | shard | directory => (readPath? s).isSome
  | lowerBound | asOf | period | reference => (readTime? s).isSome
  | hour => (readHour? s).isSome
  | limit => (readCount? s).isSome
  | threshold => (Decimal.readFloat? s).isSome

end Parameter

/-- The values of parameters, the last one first. -/
abbrev Values := List (Parameter × String)

inductive CommandName where
  | fetch
  | sync
  | schedule
  | series
  | candles
  deriving DecidableEq, Repr

namespace CommandName

def word : CommandName → String
  | fetch => "fetch"
  | sync => "sync"
  | schedule => "schedule"
  | series => "series"
  | candles => "candles"

/-- The commands by the words for them. -/
def words : List (String × CommandName) :=
  [fetch, sync, schedule, series, candles].map fun name => (name.word, name)

/-- The parameters of a command, besides that for the configuration file. -/
def parameters : CommandName → List Parameter
  | fetch => [.shard, .lowerBound, .asOf]
  | sync => []
  | schedule => [.hour]
  | series => [.directory]
  | candles => [.directory, .period, .limit, .reference, .threshold]

/-- The command with these values; none if a value is missing that it needs. -/
def command? (name : CommandName) (values : Values) : Option Command :=
  let time? (p : Parameter) : Option Int := (values.lookup p).bind readTime?
  match name with
  | fetch => do
    return .once (.fetch (← values.lookup .shard) (time? .lowerBound) (time? .asOf))
  | sync => some (.once .sync)
  | schedule => some (.daily ((values.lookup .hour).bind readHour?))
  | series => some (.once (.series (values.lookup .directory)))
  | candles => some (.once (.candles {
      directory := values.lookup .directory
      period := time? .period
      limit := (values.lookup .limit).bind readCount?
      reference := time? .reference
      threshold := (values.lookup .threshold).bind Decimal.readFloat? }))

end CommandName

inductive Argument where
  | help
  /-- A parameter, with its value if that is part of the argument. -/
  | parameter (p : Parameter) (value : Option String)
  /-- Two hyphens. Only words follow. -/
  | separator
  | word (text : String)
  | unknown
  deriving DecidableEq

namespace Argument

def parameterNamed? (allowed : List Parameter) (name : List Char) : Option Parameter :=
  allowed.find? (·.name.toList == name)

/-- An argument that starts with two hyphens, without them. -/
def ofLong (allowed : List Parameter) (cs : List Char) : Argument :=
  let name := cs.takeWhile (· != '=')
  let value : Option String :=
    match cs.dropWhile (· != '=') with
    | _ :: value => some (String.ofList value)
    | [] => none
  if name.isEmpty && value.isNone then .separator
  else if cs == "help".toList then .help
  else
    match parameterNamed? allowed name with
    | some p => .parameter p value
    | none => .unknown

/-- An argument that starts with one hyphen, without it. -/
def ofShort : List Char → Argument
  | 'h' :: _ => .help
  | ['c'] => .parameter .config none
  | 'c' :: '=' :: value => .parameter .config (some (String.ofList value))
  | 'c' :: value => .parameter .config (some (String.ofList value))
  | _ => .unknown

/-- **Argument of a text**. A single hyphen is a word. -/
def ofText (allowed : List Parameter) (s : String) : Argument :=
  match s.toList with
  | '-' :: '-' :: cs => ofLong allowed cs
  | ['-'] => .word s
  | '-' :: cs => ofShort cs
  | _ => .word s

end Argument

/-- Whether a text can stand as a value behind the name of its parameter. -/
def standsAlone (s : String) : Bool :=
  match s.toList with
  | '-' :: _ :: _ => false
  | _ => true

/-- Arguments read up to a word or the end. -/
inductive Reading where
  | help
  | misuse
  /-- A word, and the arguments after it. -/
  | word (values : Values) (text : String) (rest : List String)
  | ended (values : Values)

/-- The values with one more; none if the parameter has a value or does not accept this one. -/
def addValue? (values : Values) (p : Parameter) (value : String) : Option Values :=
  if p.accepts value && (values.lookup p).isNone then some ((p, value) :: values) else none

/-- **Reading arguments** up to a word: parameters that are allowed, each of them once. -/
def readArguments (allowed : List Parameter) (values : Values) : List String → Reading
  | [] => .ended values
  | s :: rest =>
    match Argument.ofText allowed s with
    | .help => .help
    | .unknown => .misuse
    | .separator => if rest.isEmpty then .ended values else .misuse
    | .word text => .word values text rest
    | .parameter p (some value) =>
      match addValue? values p value with
      | some values => readArguments allowed values rest
      | none => .misuse
    | .parameter p none =>
      match rest with
      | [] => .misuse
      | value :: rest =>
        -- A text that looks like an argument is not taken for the value.
        match if standsAlone value then addValue? values p value else none with
        | some values => readArguments allowed values rest
        | none => .misuse

inductive HelpTopic where
  | program
  | command (name : CommandName)
  /-- The question for help itself. -/
  | question
  deriving DecidableEq, Repr

/-- What a command line asks for. -/
inductive Request where
  | help (topic : HelpTopic)
  /-- A command, and the path of a configuration file. -/
  | run (config : Option String) (command : Command)
  /-- The command line has no meaning. -/
  | misuse
  deriving DecidableEq

namespace Request

def configVariable : String := "SWAPSHARD_CONFIG"

def helpWord : String := "help"

/-- A question for help about a command, or about all of them. -/
def ofHelp : List String → Request
  | [] => .help .program
  | [word] =>
    if word == helpWord then .help .question
    else
      match CommandName.words.lookup word with
      | some name => .help (.command name)
      | none => .misuse
  | _ => .misuse

/-- Whether some path of a configuration file is missing: where none is named the environment has to
name one, and what it names must not be empty. -/
def lacksConfig (env : Environment) (values : Values) : Bool :=
  ((values.lookup .config).or (env.value? configVariable)).map readPath? == some none

/-- The request for a command with the values given before it and after it. A configuration file
that is named after the command goes before one that is named in front, and that before the one of
the environment. -/
def ofCommand (env : Environment) (name : CommandName) (before after : Values) : Request :=
  if lacksConfig env before || lacksConfig env after then .misuse
  else
    match name.command? after with
    | some command =>
      let named := ((after.lookup .config).or (before.lookup .config)).or (env.value? configVariable)
      .run named command
    | none => .misuse

/-- **Reading a command line**: parameters, the command, and its parameters. -/
def ofArguments (env : Environment) (args : List String) : Request :=
  match readArguments [.config] [] args with
  | .help => .help .program
  | .misuse | .ended _ => .misuse
  | .word before word rest =>
    if word == helpWord then ofHelp rest
    else
      match CommandName.words.lookup word with
      | none => .misuse
      | some name =>
        match readArguments (.config :: name.parameters) [] rest with
        | .help => .help (.command name)
        | .misuse | .word .. => .misuse
        | .ended after => ofCommand env name before after

end Request

end SwapArchive.CommandLine
