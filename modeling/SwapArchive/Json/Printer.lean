import SwapArchive.Json.Text

/-!
# Writing documents
-/

namespace SwapArchive.Json

/-- A document to be written. -/
inductive Value where
  | null
  | integer (value : Int)
  | float (value : Float)
  | text (value : String)
  | list (items : List Value)
  | object (members : List (String × Value))
  deriving Inhabited

def writeInteger (n : Int) : List Char := (toString n).toList

/-- The text of a float. Infinities and values that are no numbers have none in JSON. -/
def writeFloat (x : Float) : List Char :=
  match Decimal.Parts.ofFloat x with
  | .finite .. => (numberStyle.write x).toList
  | _ => ['n', 'u', 'l', 'l']

mutual

def compactChars : Value → List Char
  | .null => ['n', 'u', 'l', 'l']
  | .integer n => writeInteger n
  | .float x => writeFloat x
  | .text s => writeText s
  | .list items => '[' :: compactItems items ++ [']']
  | .object members => '\x7b' :: compactMembers members ++ ['\x7d']

/-- The compact forms of items, with commas between them. -/
def compactItems : List Value → List Char
  | [] => []
  | [v] => compactChars v
  | v :: rest => compactChars v ++ ',' :: compactItems rest

/-- The compact forms of members, with commas between them. -/
def compactMembers : List (String × Value) → List Char
  | [] => []
  | [(k, v)] => writeText k ++ ':' :: compactChars v
  | (k, v) :: rest => writeText k ++ ':' :: compactChars v ++ ',' :: compactMembers rest

end

/-- **Compact form**: the document without separators. -/
def Value.compact (v : Value) : String := String.ofList (compactChars v)

/-- A line feed and the indentation of a level. -/
def newLine (level : Nat) : List Char := '\n' :: List.replicate (2 * level) ' '

mutual

/-- The form with one item a line, at a level of indentation. An empty container stays on its
line. -/
def prettyChars (level : Nat) : Value → List Char
  | .null => ['n', 'u', 'l', 'l']
  | .integer n => writeInteger n
  | .float x => writeFloat x
  | .text s => writeText s
  | .list [] => ['[', ']']
  | .list items => '[' :: prettyItems (level + 1) items ++ newLine level ++ [']']
  | .object [] => ['\x7b', '\x7d']
  | .object members => '\x7b' :: prettyMembers (level + 1) members ++ newLine level ++ ['\x7d']

/-- Items on lines of their own, with commas between them. -/
def prettyItems (level : Nat) : List Value → List Char
  | [] => []
  | [v] => newLine level ++ prettyChars level v
  | v :: rest => newLine level ++ prettyChars level v ++ ',' :: prettyItems level rest

/-- Members on lines of their own, with commas between them. -/
def prettyMembers (level : Nat) : List (String × Value) → List Char
  | [] => []
  | [(k, v)] => newLine level ++ writeText k ++ ':' :: ' ' :: prettyChars level v
  | (k, v) :: rest =>
    newLine level ++ writeText k ++ ':' :: ' ' :: prettyChars level v
      ++ ',' :: prettyMembers level rest

end

/-- **Pretty form**: one item a line, two spaces for each level. -/
def Value.pretty (v : Value) : String := String.ofList (prettyChars 0 v)

end SwapArchive.Json
