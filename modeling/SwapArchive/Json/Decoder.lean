import SwapArchive.Json.Text
import SwapArchive.Json.Number

/-!
# Reading values of a known kind

A decoder reads one value and refuses every other kind by name. A misfit that shows at once is
reported where the value ends; a list or an object in the wrong place is reported before it is
entered.
-/

namespace SwapArchive.Json

open Text (IntegerRange)

/-- What a number is called where it does not fit. -/
def Number.found : Number → Found
  | .integer n => .integer n
  | .float x => .float x

/-- Reads a value that is not of the expected kind, as far as is needed to name it, and stops. -/
def misfit (limits : Limits) (expected : String) : Reader α := do
  match ← peek with
  | some 'n' =>
    skip
    readWord ['u', 'l', 'l']
    stop (.invalidType .null expected)
  | some 't' =>
    skip
    readWord ['r', 'u', 'e']
    stop (.invalidType (.boolean true) expected)
  | some 'f' =>
    skip
    readWord ['a', 'l', 's', 'e']
    stop (.invalidType (.boolean false) expected)
  | some '-' =>
    skip
    let n ← readNumber true
    stop (.invalidType n.found expected)
  | some '"' =>
    let s ← readText limits
    stop (.invalidType (.text s) expected)
  -- A container is not entered: its kind shows at the bracket.
  | some '[' => stop (.invalidType .list expected)
  | some '\x7b' => stop (.invalidType .object expected)
  | some c =>
    if c.isDigit then
      let n ← readNumber false
      stop (.invalidType n.found expected)
    else stopAtNext .expectedValue
  | none => stopAtNext .expectedValue

def readStringAs (limits : Limits) (expected : String) : Reader String := do
  match ← peekToken with
  | none => stopAtNext .endInValue
  | some '"' => readText limits
  | some _ => misfit limits expected

def readString (limits : Limits) : Reader String := readStringAs limits "a string"

/-- A number, or a misfit. -/
def readNumberAs (limits : Limits) (expected : String) : Reader Number := do
  match ← peekToken with
  | none => stopAtNext .endInValue
  | some '-' =>
    skip
    readNumber true
  | some c => if c.isDigit then readNumber false else misfit limits expected

/-- **Integer**: an integer of a range. Floats are refused even if they are whole. -/
def readInteger (limits : Limits) (range : IntegerRange) (expected : String) : Reader Int := do
  match ← readNumberAs limits expected with
  | .integer n =>
    if range.contains n then return n else stop (.invalidValue (.integer n) expected)
  | .float x => stop (.invalidType (.float x) expected)

/-- The float next to an integer. -/
def floatOfInteger (n : Int) : Float :=
  if n < 0 then -n.natAbs.toUInt64.toFloat else n.natAbs.toUInt64.toFloat

/-- **Float**: any number. -/
def readFloat (limits : Limits) : Reader Float := do
  match ← readNumberAs limits "f64" with
  | .integer n => return floatOfInteger n
  | .float x => return x

/-- `null`, or a value. -/
def readOptional (item : Reader α) : Reader (Option α) := do
  match ← peekToken with
  | some 'n' =>
    skip
    readWord ['u', 'l', 'l']
    return none
  | _ => some <$> item

/-- Whether a list goes on. `first` tells that no item has been read yet; later ones have a comma
before them. -/
def nextItem (first : Bool) : Reader Bool := do
  match ← peekToken with
  | none => stopAtNext .endInList
  | some c =>
    if c = ']' then return false
    else if first then return true
    else if c = ',' then
      skip
      match ← peekToken with
      | none => stopAtNext .endInValue
      -- A comma promises another item.
      | some c => if c = ']' then stopAtNext .trailingComma else return true
    else stopAtNext .expectedCommaInList

/-- Whether an object goes on. A key is then next. -/
def nextKey (first : Bool) : Reader Bool := do
  match ← peekToken with
  | none => stopAtNext .endInObject
  | some c =>
    if c = '\x7d' then return false
    else if first then
      if c = '"' then return true else stopAtNext .keyNotText
    else if c = ',' then
      skip
      match ← peekToken with
      | none => stopAtNext .endInValue
      | some c =>
        if c = '"' then return true
        else if c = '\x7d' then stopAtNext .trailingComma
        else stopAtNext .keyNotText
    else stopAtNext .expectedCommaInObject

/-- Reads the colon between a key and its value. -/
def readColon : Reader Unit := do
  match ← peekToken with
  | some ':' => skip
  | some _ => stopAtNext .expectedColon
  | none => stopAtNext .endInObject

/-- Reads the end of a list that should have no further item. -/
def endList : Reader Unit := do
  match ← peekToken with
  | none => stopAtNext .endInList
  | some ']' => skip
  | some ',' =>
    skip
    match ← peekToken with
    | some ']' => stopAtNext .trailingComma
    | _ => stopAtNext .trailingCharacters
  | some _ => stopAtNext .trailingCharacters

/-- Enters a container, if containers may still nest. -/
def enter (limits : Limits) (body : Limits → Reader α) : Reader α :=
  match limits.depth with
  | 0 => stopAtNext .tooDeep
  | depth + 1 => do
    skip
    body ⟨depth, limits.items⟩

/-- The items of a list up to its end, which is left unread. -/
def readItems (item : Reader α) : (items : Nat) → (first : Bool) → Reader (List α)
  | 0, _ => stop .endInList
  | items + 1, first => do
    if ← nextItem first then
      let a ← item
      let rest ← readItems item items false
      return a :: rest
    else return []

/-- **List**: the items between brackets. -/
def readList (limits : Limits) (item : Limits → Reader α) : Reader (List α) := do
  match ← peekToken with
  | none => stopAtNext .endInValue
  | some '[' =>
    enter limits fun limits => do
      let items ← readItems (item limits) limits.items true
      endList
      return items
  | some _ => misfit limits "a sequence"

/-- A value of which only integers and texts matter. -/
inductive Loose where
  | integer (value : Int)
  | text (value : String)
  | other

def Number.loose : Number → Loose
  | .integer n => .integer n
  | .float _ => .other

/-- Passes over the members of an object up to its end, which is left unread. -/
def readMembers (limits : Limits) (value : Reader α) :
    (items : Nat) → (first : Bool) → Reader Unit
  | 0, _ => stop .endInObject
  | items + 1, first => do
    if ← nextKey first then
      discard (readText limits)
      readColon
      discard value
      readMembers limits value items false

/-- Any value, given the decoder for what a list or an object holds; without one, lists and
objects are refused. -/
def readLooseWith (limits : Limits) (held : Option (Reader Loose)) : Reader Loose := do
  match ← peekToken with
  | none => stopAtNext .endInValue
  | some 'n' => skip; readWord ['u', 'l', 'l']; return .other
  | some 't' => skip; readWord ['r', 'u', 'e']; return .other
  | some 'f' => skip; readWord ['a', 'l', 's', 'e']; return .other
  | some '"' => return .text (← readText limits)
  | some '[' =>
    match held with
    | none => stopAtNext .tooDeep
    | some held =>
      skip
      discard (readItems held limits.items true)
      endList
      return .other
  | some '\x7b' =>
    match held with
    | none => stopAtNext .tooDeep
    | some held =>
      skip
      readMembers limits held limits.items true
      skip
      return .other
  | some c =>
    if c == '-' then
      skip
      return (← readNumber true).loose
    else if c.isDigit then return (← readNumber false).loose
    else stopAtNext .expectedValue

/-- Any value with containers inside one another to the given depth. -/
def readLooseTo (items : Nat) : (depth : Nat) → Reader Loose
  | 0 => readLooseWith ⟨0, items⟩ none
  | depth + 1 => readLooseWith ⟨depth + 1, items⟩ (some (readLooseTo items depth))

/-- **Any value**, read strictly: texts have to be characters, numbers have to fit, and containers
count against the depth. -/
def readLoose (limits : Limits) : Reader Loose := readLooseTo limits.items limits.depth

def variantOf (known : List (String × α)) (name : String) : Reader α :=
  match known.find? (·.1 == name) with
  | some (_, a) => return a
  | none => stop (.unknownVariant name (known.map (·.1)))

/-- **Variant**: one of several names, by itself or as the only key of an object with no value. -/
def readVariant (limits : Limits) (known : List (String × α)) : Reader α := do
  match ← peekToken with
  | none => stopAtNext .endInValue
  | some '"' =>
    let name ← readText limits
    variantOf known name
  | some '\x7b' =>
    enter limits fun limits => do
      match ← peekToken with
      | none => stopAtNext .endInObject
      | some '"' => pure ()
      | some '\x7d' => stopAtNext .expectedValue
      | some _ => stopAtNext .keyNotText
      let name ← readText limits
      let a ← variantOf known name
      readColon
      match ← peekToken with
      | none => stopAtNext .endInValue
      | some 'n' => skip; readWord ['u', 'l', 'l']
      | some _ => misfit limits "unit"
      match ← peekToken with
      -- The value has been read, so that the error lies at it and not at what comes next.
      | none => stop .endInObject
      | some '\x7d' =>
        skip
        return a
      | some _ => stop .expectedValue
  | some _ => stopAtNext .expectedValue

/-- **Document**: one value, with nothing but separators around it. -/
def readDocument (value : Limits → Reader α) (bytes : List UInt8) : Except Error α := do
  let whole : Reader α := do
    let a ← value (Limits.of bytes)
    match ← peekToken with
    | none => return a
    | some _ => stopAtNext .trailingCharacters
  let (a, _) ← whole.run (Cursor.start bytes)
  return a

end SwapArchive.Json
