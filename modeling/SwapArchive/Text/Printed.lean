import SwapArchive.Text.Utf8

/-!
# Texts without control sequences

A control sequence tells a terminal how to show what follows it. It starts with an escape character
and is over at its final character, or at once if it is cancelled. What is left of a text without
its control sequences, and without the control characters that are no white space, can be printed
anywhere.

Once a character is printed the ones after it are printed too, up to a control character that ends
the run. White space that is printed within a control sequence starts such a run as well, and the
sequence goes on after it.
-/

namespace SwapArchive.Text

/-- What has been read of a control sequence. -/
inductive ControlState where
  /-- No control sequence is open. -/
  | none
  /-- The escape character. -/
  | escape
  /-- An escape character, and at least one character between it and the final one. -/
  | intermediate
  /-- A sequence with parameters. -/
  | parameters
  /-- The start of a string for the device. -/
  | deviceStart
  /-- The parameters of a string for the device. -/
  | deviceParameters
  /-- What stands behind the parameters of a string for the device. -/
  | deviceIntermediate
  /-- A string that is not shown. -/
  | string
  /-- A command for the system. -/
  | command
  deriving DecidableEq, Repr

def stringEnd : UInt8 := 0x9C

namespace ControlState

/-- Whether the number of a character lies in a range. -/
def isWithin (c : Char) (low high : Nat) : Bool := low ≤ c.toNat && c.toNat ≤ high

/-- The part after a character that follows the escape character. -/
def afterEscape (c : Char) : ControlState :=
  if isWithin c 0x20 0x2F then intermediate
  else if c == '[' then parameters
  else if c == ']' then command
  else if c == 'P' then deviceStart
  else if c == 'X' || c == '^' || c == '_' then string
  else if isWithin c 0x30 0x7E then none
  else escape

/-- **Next part** after a character that is not printed. Two characters cancel a sequence, and an
escape character starts a new one. -/
def next (state : ControlState) (c : Char) : ControlState :=
  -- These two hold within a string as well.
  if c == '\x18' || c == '\x1A' then none
  else if c == '\x1B' then escape
  else
    match state with
    | none => none
    | escape => afterEscape c
    | intermediate => if isWithin c 0x30 0x7E then none else intermediate
    | parameters => if isWithin c 0x40 0x7E then none else parameters
    | deviceStart =>
      if isWithin c 0x20 0x2F then deviceIntermediate
      else if c == ':' then deviceStart
      else if isWithin c 0x30 0x3F then deviceParameters
      else if isWithin c 0x40 0x7E then string
      else deviceStart
    | deviceParameters =>
      if isWithin c 0x20 0x2F then deviceIntermediate
      else if isWithin c 0x3C 0x7E then string
      else deviceParameters
    | deviceIntermediate => if isWithin c 0x30 0x7E then string else deviceIntermediate
    | string => if (encodeChar c).contains stringEnd then none else string
    | command => if c == '\x07' then none else command

/-- Whether a character starts a run of printed ones. Within a sequence, but for its strings, white
space alone does. -/
def starts (state : ControlState) (c : Char) : Bool :=
  match state with
  | none => true
  | escape | intermediate | parameters => c.toNat < 0x20
  | _ => false

end ControlState

/-- Whether a character can be printed: one that is no control character of ASCII, or white space. -/
def isPrinted (c : Char) : Bool :=
  if c.toNat < 0x20 then c == '\t' || c == '\n' || c == '\x0C' || c == '\r' else c != '\x7F'

/-- The printed characters of a text, in a run of them or not. A character beyond ASCII that is
printed closes the control sequence. -/
def printedFrom (inRun : Bool) (state : ControlState) : List Char → List Char
  | [] => []
  | c :: rest =>
    if isPrinted c && (inRun || state.starts c) then
      c :: printedFrom true (if c.toNat < 0x80 then state else .none) rest
    else printedFrom false (state.next c) rest

/-- **Printed characters** of a text. -/
def printedChars (cs : List Char) : List Char := printedFrom false .none cs

/-- A text without its control sequences. -/
def printed (s : String) : String := String.ofList (printedChars s.toList)

end SwapArchive.Text
