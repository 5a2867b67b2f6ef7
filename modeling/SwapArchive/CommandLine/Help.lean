import SwapArchive.CommandLine.Arguments
import SwapArchive.Text.Printed
import SwapArchive.Text.Styled

/-!
# Help pages

A help page tells what the program or one of its commands is for, how it is called, and what its
commands and parameters are. What is typed as it stands is bold, and so are headings. If the terms of
a list take more than forty characters, the descriptions stand below them.
-/

namespace SwapArchive.CommandLine

open Text (Styled bold plain underlined)

/-- A term and what is said about it. -/
structure HelpEntry where
  term : Styled
  about : String
  deriving DecidableEq, Repr

/-- The most characters that terms take from a line if descriptions stand beside them. -/
def termLength : Nat := 40

/-- Where descriptions start that stand below their terms. -/
def belowColumn : Nat := 10

def spaces (n : Nat) : String := String.ofList (List.replicate n ' ')

/-- A text whose lines, but for the first, start at a column. -/
def indentFrom (column : Nat) (text : String) : String :=
  String.intercalate ("\n" ++ spaces column) (text.splitOn "\n")

/-- The column where the descriptions of a list start if they stand beside their terms. -/
def aboutColumn (entries : List HelpEntry) : Nat :=
  (entries.map (·.term.width)).foldl max 0 + 4

def entriesText (entries : List HelpEntry) : String :=
  let column := aboutColumn entries
  let entryText (e : HelpEntry) : String :=
    if termLength < column then
      "  " ++ e.term.text ++ "\n" ++ spaces belowColumn ++ indentFrom belowColumn e.about
    else
      "  " ++ e.term.text ++ spaces (column - 2 - e.term.width) ++ indentFrom column e.about
  String.intercalate "\n" (entries.map entryText)

/-- A help page. Its lists have headings. -/
structure HelpPage where
  about : String
  usage : Styled
  lists : List (String × List HelpEntry)
  deriving DecidableEq, Repr

def headingText (heading : String) : String := (underlined (heading ++ ":")).controlled

/-- **Shown page**: what it is about, the usage, and the lists, with empty lines between them. -/
def HelpPage.text (page : HelpPage) : String :=
  let parts := page.about :: (headingText "Usage" ++ " " ++ page.usage.text)
    :: page.lists.map fun (heading, entries) => headingText heading ++ "\n" ++ entriesText entries
  String.intercalate "\n\n" parts ++ "\n"

namespace Parameter

def about : Parameter → String
  | config => "JSON configuration file; defaults apply when omitted"
  | shard => "Shard database path"
  | lowerBound => "Stop once the cursor reaches this timestamp (default: initial timestamp)"
  | asOf => "Start cursor (default: earliest stored swap, else now)"
  | hour => "Override the configured sync hour"
  | directory => "Shard directory (default: configured shards path)"
  | period => "Candle period in seconds (default: configured period)"
  | limit => "Only the latest N candles"
  | reference => "Latest candle may start no later than this (default: now)"
  | threshold => "MAD outlier threshold (default: configured threshold)"

/-- How a parameter is written, with a word for its value. -/
def term (p : Parameter) : Styled :=
  let word := p.name.map fun c => if c == '-' then '_' else c.toUpper
  [bold ("--" ++ p.name), plain (" <" ++ word ++ ">")]

/-- The entry of a parameter. The one for the configuration file has a short name too, and the
variable that it may come from is told with its value. -/
def entry (env : Environment) : Parameter → HelpEntry
  | config =>
    let value := (env.value? Request.configVariable).getD ""
    ⟨bold "-c" :: plain ", " :: config.term,
      config.about ++ " [env: " ++ Request.configVariable ++ "=" ++ value ++ "]"⟩
  | p => ⟨plain (spaces 4) :: p.term, p.about⟩

end Parameter

def CommandName.about : CommandName → String
  | fetch => "Fetch swaps backward into a single shard file"
  | sync => "Fetch every complete day since the initial timestamp into day shards"
  | schedule => "Run the day-shard sync once a day at the configured hour (UTC)"
  | series => "Print the merged price series as CSV (timestamp,price,rolling_mad)"
  | candles => "Print candles as JSON"

/-- The parameters that a command cannot do without. -/
def CommandName.neededParameters : CommandName → List Parameter
  | fetch => [.shard]
  | _ => []

namespace HelpTopic

def programName : String := "swapshard"

def programAbout : String := "Fetch DEX swaps into SQLite shards and build price series"

/-- What the question for help is for. -/
def helpAbout : String := "Print this message or the help of the given subcommand(s)"

/-- The list of parameters, with that for the configuration file in front and the question for help
at the end. -/
def options (env : Environment) (parameters : List Parameter) : String × List HelpEntry :=
  ("Options", (.config :: parameters).map (Parameter.entry env)
    ++ [⟨[bold "-h", plain ", ", bold "--help"], "Print help"⟩])

/-- **Page** of a topic. -/
def page (env : Environment) : HelpTopic → HelpPage
  | program =>
    { about := programAbout
      usage := [bold programName, plain " [OPTIONS] <COMMAND>"]
      lists := [
        ("Commands", CommandName.words.map (fun (word, name) => ⟨[bold word], name.about⟩)
          ++ [⟨[bold Request.helpWord], helpAbout⟩]),
        options env []] }
  | command name =>
    let needed := name.neededParameters.flatMap fun p => plain " " :: p.term
    { about := name.about
      usage := bold (programName ++ " " ++ name.word) :: plain " [OPTIONS]" :: needed
      lists := [options env name.parameters] }
  | question =>
    { about := helpAbout
      usage := [bold (programName ++ " " ++ Request.helpWord), plain " [COMMAND]..."]
      lists := [("Arguments", [⟨[plain "[COMMAND]..."], "Print help for the subcommand(s)"⟩])] }

/-- The variable that forbids styles, and the one that asks for them. -/
def styleVariables : String × String := ("NO_COLOR", "CLICOLOR_FORCE")

/-- Whether an environment asks for styles and does not forbid them. An empty value says nothing. -/
def wantsStyles (env : Environment) : Bool :=
  let isSaid (name : String) : Bool := !((env.value? name).getD "").isEmpty
  !isSaid styleVariables.1 && isSaid styleVariables.2

/-- **Shown page** of a topic: without control sequences, unless the environment asks for styles. -/
def shown (env : Environment) (topic : HelpTopic) : String :=
  let text := (topic.page env).text
  if wantsStyles env then text else Text.printed text

end HelpTopic
end SwapArchive.CommandLine
