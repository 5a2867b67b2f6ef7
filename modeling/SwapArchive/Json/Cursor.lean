import SwapArchive.Json.Error

/-!
# Reading position

A document is read byte by byte, on demand: what follows an error is never looked at. The cursor
holds the bytes still to be read and the place they start at.

## Design notes

Only bytes below 128 have a meaning of their own in JSON, so a byte is looked at as the character
of that number. Loops over items carry a count as their fuel. It starts at the number of bytes of
the document, and every item takes at least one byte, so the fuel never decides a result.
-/

namespace SwapArchive.Json

/-- The bytes still to be read, and the place of the first of them. -/
structure Cursor where
  rest : List UInt8
  line : Nat
  column : Nat

namespace Cursor

def start (bytes : List UInt8) : Cursor := ⟨bytes, 1, 0⟩

def place (c : Cursor) : Place := ⟨c.line, c.column⟩

/-- The next byte, as a character. -/
def head? (c : Cursor) : Option Char := c.rest.head?.map Char.ofUInt8

/-- Past the next byte. A line feed starts a new line at column zero; at the end nothing moves. -/
def advance (c : Cursor) : Cursor :=
  match c.rest with
  | [] => c
  | b :: rest => if b = 10 then ⟨rest, c.line + 1, 0⟩ else ⟨rest, c.line, c.column + 1⟩

def advanceBy (c : Cursor) : Nat → Cursor
  | 0 => c
  | n + 1 => c.advance.advanceBy n

end Cursor

/-- A step of reading. -/
abbrev Reader := StateT Cursor (Except Error)

/-- How deep containers may still nest, and how many items a container may still have. -/
structure Limits where
  depth : Nat
  items : Nat

/-- The limits for a document: one hundred and twenty-seven containers inside one another. -/
def Limits.of (bytes : List UInt8) : Limits := ⟨127, bytes.length + 1⟩

/-- Stops at the place reached. -/
def stop (cause : Cause) : Reader α := fun c => .error ⟨cause, c.place⟩

/-- Stops just past the next byte. -/
def stopAtNext (cause : Cause) : Reader α := fun c => .error ⟨cause, c.advance.place⟩

/-- The next byte, which is left unread. -/
def peek : Reader (Option Char) := fun c => .ok (c.head?, c)

def skip : Reader Unit := fun c => .ok ((), c.advance)

def next : Reader (Option Char) := fun c => .ok (c.head?, c.advance)

/-- The four bytes that separate: space, line feed, carriage return and tab. -/
def isSeparator (c : Char) : Bool := c == ' ' || c == '\n' || c == '\t' || c == '\r'

/-- The cursor at the first of these bytes that is no separator. -/
def separatorsFrom (line column : Nat) : List UInt8 → Cursor
  | [] => ⟨[], line, column⟩
  | b :: rest =>
    if isSeparator (Char.ofUInt8 b) then
      if b = 10 then separatorsFrom (line + 1) 0 rest else separatorsFrom line (column + 1) rest
    else ⟨b :: rest, line, column⟩

/-- The next byte that is no separator, which is left unread. -/
def peekToken : Reader (Option Char) := fun c =>
  let c := separatorsFrom c.line c.column c.rest
  .ok (c.head?, c)

/-- Reads the remaining letters of a word that has been recognised by its first one. -/
def readWord : List Char → Reader Unit
  | [] => pure ()
  | expected :: letters => do
    match ← next with
    | none => stop .endInValue
    | some c => if c = expected then readWord letters else stop .expectedWord

end SwapArchive.Json
