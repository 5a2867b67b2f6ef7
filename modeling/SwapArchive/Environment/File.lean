import SwapArchive.Environment.Basic
import SwapArchive.Text.Alphanumeric
import SwapArchive.Text.Blank

/-!
# Files of variables

A file of variables holds one assignment a line: a name, an equals sign and a value. A value may be
quoted, and a quoted value may go on over several lines. A dollar sign stands before the name of a
variable, whose value is put in its place. The rest of a line after a number sign is a comment.

Assignments are taken one after the other, up to the first that is malformed. They give values only
to names that have none.
-/

namespace SwapArchive.Environment

/-- Where in an entry a character stands, as far as the end of the entry depends on it. -/
inductive Place where
  /-- Outside of quotes. -/
  | outside
  /-- Outside of quotes, after a blank. A comment can begin here. -/
  | afterBlank
  /-- After a backslash outside of quotes. -/
  | escape
  /-- Within single quotes. -/
  | single
  /-- After a backslash within single quotes. -/
  | singleEscape
  /-- Within double quotes. -/
  | double
  /-- After a backslash within double quotes. -/
  | doubleEscape
  deriving DecidableEq, Repr

/-- The place after a character outside of quotes that begins something. -/
def Place.opened? : Char → Option Place
  | '\\' => some escape
  | '"' => some double
  | '\'' => some single
  | _ => none

/-- The place after a character; none where a comment begins. -/
def Place.next? (place : Place) (c : Char) : Option Place :=
  match place with
  | outside =>
    some ((opened? c).getD
      (if Text.isBlank c && c != '\n' && c != '\r' then afterBlank else outside))
  | afterBlank => if c == '#' then none else some ((opened? c).getD outside)
  | escape => some outside
  | single => some (if c == '\\' then singleEscape else if c == '\'' then outside else single)
  | singleEscape => some single
  | double => some (if c == '\\' then doubleEscape else if c == '"' then outside else double)
  | doubleEscape => some double

/-- The part of a line before a comment, and the place at the end of the line; no place if there
is a comment. -/
def beforeComment (place : Place) : List Char → List Char × Option Place
  | [] => ([], some place)
  | c :: rest =>
    match place.next? c with
    | none => ([], none)
    | some place =>
      let (text, last) := beforeComment place rest
      (c :: text, last)

/-- The lines of a text, each with the line feed that ends it. -/
def linesOf : List Char → List (List Char)
  | [] => []
  | c :: rest =>
    if c == '\n' then [c] :: linesOf rest
    else
      match linesOf rest with
      | [] => [[c]]
      | line :: lines => (c :: line) :: lines

/-- A line without the line break at its end. -/
def dropBreak (line : List Char) : List Char :=
  match line.reverse with
  | '\n' :: '\r' :: rest => rest.reverse
  | '\n' :: rest => rest.reverse
  | _ => line

def trimStart (cs : List Char) : List Char := cs.dropWhile Text.isBlank

def trimEnd (cs : List Char) : List Char := (trimStart cs.reverse).reverse

/-- Whether a text holds nothing, or a comment only. -/
def isComment (cs : List Char) : Bool := (trimStart cs).head? == some '#'

/-- The entries of lines that follow the start of an entry. One that never ends is left out. -/
def entriesFrom (start : List Char) (place : Place) : List (List Char) → List (List Char)
  | [] => []
  | line :: lines =>
    if isComment (start ++ line) then entriesFrom [] .outside lines
    else
      match beforeComment place line with
      | (text, none) => (start ++ text) :: entriesFrom [] .outside lines
      | (text, some .outside) => dropBreak (start ++ text) :: entriesFrom [] .outside lines
      | (text, some place) => entriesFrom (start ++ text) place lines

/-- **Entries** of a file: its lines, those within quotes taken together. -/
def entriesOf (cs : List Char) : List (List Char) := entriesFrom [] .outside (linesOf cs)

/-- How far the reading of a value has come. -/
inductive Reading where
  | plain
  /-- After a backslash, within double quotes or not. -/
  | escape (quoted : Bool)
  | single
  | double
  /-- After a dollar sign, with the name read so far: letters and digits. -/
  | variable (quoted : Bool) (name : List Char)
  /-- After a dollar sign and a brace, with the name read so far. -/
  | braced (quoted : Bool) (name : List Char)
  /-- After a blank that ends the value. -/
  | ended
  deriving DecidableEq, Repr

/-- Within double quotes or outside of quotes. -/
def Reading.resume (quoted : Bool) : Reading := if quoted then double else plain

/-- The value of a variable, or nothing. -/
def resolve (env : Environment) (name : List Char) : List Char :=
  ((env.value? (String.ofList name)).getD "").toList

/-- The characters that a backslash may stand before, and what they stand for. -/
def unescape? : Char → Option Char
  | 'n' => some '\n'
  | c => if c == '\\' || c == '\'' || c == '"' || c == '$' || c == ' ' then some c else none

/-- **Value of an assignment**: quotes removed, and variables replaced by their values. -/
def readValueFrom? (env : Environment) : Reading → List Char → Option (List Char)
  | .plain, [] => some []
  | .escape false, [] => some []
  | .variable false name, [] => some (env.resolve name)
  | .ended, [] => some []
  | .single, [] | .double, [] | .escape true, [] | .variable true _, [] | .braced _ _, [] => none
  | .plain, c :: rest =>
    if c == '$' then readValueFrom? env (.variable false []) rest
    else if c == '\'' then readValueFrom? env .single rest
    else if c == '"' then readValueFrom? env .double rest
    else if c == '\\' then readValueFrom? env (.escape false) rest
    else if c == ' ' || c == '\t' then readValueFrom? env .ended rest
    else (readValueFrom? env .plain rest).map (c :: ·)
  | .escape quoted, c :: rest =>
    match unescape? c with
    | some c => (readValueFrom? env (.resume quoted) rest).map (c :: ·)
    | none => none
  | .single, c :: rest =>
    if c == '\'' then readValueFrom? env .plain rest
    else (readValueFrom? env .single rest).map (c :: ·)
  | .double, c :: rest =>
    if c == '$' then readValueFrom? env (.variable true []) rest
    else if c == '"' then readValueFrom? env .plain rest
    else if c == '\\' then readValueFrom? env (.escape true) rest
    else (readValueFrom? env .double rest).map (c :: ·)
  | .variable quoted name, c :: rest =>
    if Text.isAlphanumeric c then readValueFrom? env (.variable quoted (name ++ [c])) rest
    else if c == '\x7b' && name.isEmpty then readValueFrom? env (.braced quoted []) rest
    else if c == '$' then
      (readValueFrom? env (.variable quoted []) rest).map (env.resolve name ++ ·)
    else (readValueFrom? env (.resume quoted) rest).map (env.resolve name ++ c :: ·)
  | .braced quoted name, c :: rest =>
    if c == '\x7d' then (readValueFrom? env (.resume quoted) rest).map (env.resolve name ++ ·)
    else readValueFrom? env (.braced quoted (name ++ [c])) rest
  | .ended, c :: rest =>
    if c == ' ' || c == '\t' then readValueFrom? env .ended rest
    else if c == '#' then some []
    else none

def readValue? (env : Environment) (cs : List Char) : Option String :=
  (readValueFrom? env .plain cs).map String.ofList

/-- A name and what follows it. -/
def readName? (cs : List Char) : Option (String × List Char) :=
  match cs with
  | c :: _ =>
    if c.isAlpha || c == '_' then
      let isPart (c : Char) : Bool := c.isAlphanum || c == '_' || c == '.'
      some (String.ofList (cs.takeWhile isPart), trimStart (cs.dropWhile isPart))
    else none
  | [] => none

def readEquals? : List Char → Option (List Char)
  | '=' :: rest => some (trimStart rest)
  | _ => none

/-- A name before an equals sign, and what follows. The word `export` may stand in front. -/
def readTarget? (cs : List Char) : Option (String × List Char) := do
  let (name, rest) ← readName? cs
  match readEquals? rest with
  | some value => return (name, value)
  | none =>
    -- A variable may be called `export` itself; an equals sign tells.
    if name == "export" then
      let (name, rest) ← readName? rest
      return (name, ← readEquals? rest)
    else none

/-- What an entry holds. -/
inductive Item where
  | nothing
  | assignment (name value : String)
  | malformed
  deriving DecidableEq, Repr

/-- **Reading an entry**. An empty value needs no quotes. -/
def readEntry (env : Environment) (cs : List Char) : Item :=
  let cs := trimStart (trimEnd cs)
  if cs.isEmpty || isComment cs then .nothing
  else
    match readTarget? cs with
    | none => .malformed
    | some (name, value) =>
      if value.isEmpty || isComment value then .assignment name ""
      else
        match env.readValue? value with
        | some value => .assignment name value
        | none => .malformed

/-- An environment with the assignments of entries, up to the first that is malformed; none if a
value cannot be given. -/
def extendBy? (env : Environment) : List (List Char) → Option Environment
  | [] => some env
  | entry :: entries =>
    match env.readEntry entry with
    | .nothing => env.extendBy? entries
    | .assignment name value => (env.setDefault? name value).bind (·.extendBy? entries)
    -- What was assigned before stays.
    | .malformed => some env

/-- The mark that may stand at the start of a text in Unicode. -/
def byteOrderMark : Char := '\uFEFF'

/-- **Environment with a file**: the assignments of the file, for names that have no value. There is
none if the file has a value for such a name that cannot be given. -/
def extend? (env : Environment) (file : String) : Option Environment :=
  match file.toList with
  | [] => some env
  | c :: rest => env.extendBy? (entriesOf (if c == byteOrderMark then rest else c :: rest))

end SwapArchive.Environment
