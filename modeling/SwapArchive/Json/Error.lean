import SwapArchive.Text.Quoted
import SwapArchive.Decimal.Style

/-!
# What can be wrong with a JSON document

An error names what was met or missed and the place where reading stopped: a line, and the number
of bytes read on it.
-/

namespace SwapArchive.Json

/-- **JSON numbers**: without an exponent from `0.00001` to below `10 ^ 16`, whole numbers with
`.0`, and a sign on every exponent. The two entries for values that JSON lacks are never used: the
printer writes `null` for those. -/
def numberStyle : Decimal.Style where
  positional := some (-5, 15)
  pointAlways := true
  plusSign := true
  tie := .toEven
  notANumber := "null"
  infinity := "null"

/-- A value that does not fit where it stands. -/
inductive Found where
  | null
  | boolean (value : Bool)
  | integer (value : Int)
  | float (value : Float)
  | text (value : String)
  | list
  | object

/-- How a misfit is named. -/
def Found.describe : Found → String
  | null => "null"
  | boolean b => s!"boolean `{b}`"
  | integer n => s!"integer `{n}`"
  | float x => "floating point `" ++ numberStyle.write x ++ "`"
  | text s => "string " ++ Text.quote s
  | list => "sequence"
  | object => "map"

inductive Cause where
  | endInValue
  | endInList
  | endInObject
  | endInText
  | expectedColon
  | expectedCommaInList
  | expectedCommaInObject
  | expectedValue
  | expectedWord
  | trailingComma
  | trailingCharacters
  | keyNotText
  | invalidNumber
  | numberOutOfRange
  | invalidEscape
  | endInEscape
  | loneSurrogate
  | invalidCodePoint
  | controlCharacter
  | tooDeep
  | invalidType (found : Found) (expected : String)
  | invalidValue (found : Found) (expected : String)
  | invalidLength (length : Nat) (expected : String)
  | missingField (name : String)
  | duplicateField (name : String)
  | unknownVariant (name : String) (known : List String)
  /-- A value of the right kind that the field cannot take. -/
  | unsuitable (reason : String)

def Cause.message : Cause → String
  | endInValue => "EOF while parsing a value"
  | endInList => "EOF while parsing a list"
  | endInObject => "EOF while parsing an object"
  | endInText => "EOF while parsing a string"
  | expectedColon => "expected `:`"
  | expectedCommaInList => "expected `,` or `]`"
  | expectedCommaInObject => "expected `,` or `\x7d`"
  | expectedValue => "expected value"
  | expectedWord => "expected ident"
  | trailingComma => "trailing comma"
  | trailingCharacters => "trailing characters"
  | keyNotText => "key must be a string"
  | invalidNumber => "invalid number"
  | numberOutOfRange => "number out of range"
  | invalidEscape => "invalid escape"
  | endInEscape => "unexpected end of hex escape"
  | loneSurrogate => "lone leading surrogate in hex escape"
  | invalidCodePoint => "invalid unicode code point"
  | controlCharacter => "control character (\\u0000-\\u001F) found while parsing a string"
  | tooDeep => "recursion limit exceeded"
  | invalidType found expected => s!"invalid type: {found.describe}, expected {expected}"
  | invalidValue found expected => s!"invalid value: {found.describe}, expected {expected}"
  | invalidLength length expected => s!"invalid length {length}, expected {expected}"
  | missingField name => s!"missing field `{name}`"
  | duplicateField name => s!"duplicate field `{name}`"
  | unknownVariant name known =>
    s!"unknown variant `{name}`, expected "
      ++ String.intercalate " or " (known.map fun k => "`" ++ k ++ "`")
  | unsuitable reason => reason

/-- A place in a document: the line, counted from one, and the bytes read on it. -/
structure Place where
  line : Nat
  column : Nat
  deriving DecidableEq, Repr

/-- What is wrong, and where reading stopped. -/
structure Error where
  cause : Cause
  place : Place

/-- **Message**: the cause and the place. -/
def Error.message (e : Error) : String :=
  s!"{e.cause.message} at line {e.place.line} column {e.place.column}"

end SwapArchive.Json
