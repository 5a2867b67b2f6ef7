import SwapArchive.Json.Cursor
import SwapArchive.Text.Hex
import SwapArchive.Text.Utf8

/-!
# Texts in a document

A text stands between quotation marks. Inside, a backslash starts an escape, control characters
are forbidden, and all else stands for itself in UTF-8. Characters beyond the first plane can be
escaped as a pair of surrogates.
-/

namespace SwapArchive.Json

def hexNumber? (digits : List UInt8) : Option Nat :=
  digits.foldlM (fun n b => (Text.hexValue? (Char.ofUInt8 b)).map (n * 16 + ·)) 0

/-- Reads the four digits of an escape by number. Bytes that are no digits are read as well
before they are refused. -/
def readHexNumber : Reader Nat := fun c =>
  match c.rest with
  | b₁ :: b₂ :: b₃ :: b₄ :: _ =>
    let after := c.advanceBy 4
    match hexNumber? [b₁, b₂, b₃, b₄] with
    | some n => .ok (n, after)
    | none => .error ⟨.invalidEscape, after.place⟩
  | short => .error ⟨.endInText, (c.advanceBy short.length).place⟩

/-- A surrogate that opens a pair. -/
def isHighSurrogate (n : Nat) : Bool := 0xD800 ≤ n && n ≤ 0xDBFF

/-- A surrogate that closes a pair. -/
def isLowSurrogate (n : Nat) : Bool := 0xDC00 ≤ n && n ≤ 0xDFFF

/-- The character of an escape by number, one escape or two. -/
def readNumberedChar : Reader Char := do
  let high ← readHexNumber
  if isLowSurrogate high then stop .loneSurrogate
  -- A high surrogate stands for nothing without the low one behind it.
  else if !isHighSurrogate high then return Char.ofNat high
  else
    match ← next with
    | none => stop .endInText
    | some '\\' =>
      match ← next with
      | none => stop .endInText
      | some 'u' =>
        let low ← readHexNumber
        if isLowSurrogate low then
          return Char.ofNat (0x10000 + (high - 0xD800) * 1024 + (low - 0xDC00))
        else stop .loneSurrogate
      | some _ => stop .endInEscape
    | some _ => stop .endInEscape

/-- The character that an escape stands for, after the backslash. -/
def readEscape : Reader Char := do
  match ← next with
  | none => stop .endInText
  | some '"' => return '"'
  | some '\\' => return '\\'
  | some '/' => return '/'
  | some 'b' => return '\x08'
  | some 'f' => return '\x0c'
  | some 'n' => return '\n'
  | some 'r' => return '\r'
  | some 't' => return '\t'
  | some 'u' => readNumberedChar
  | some _ => stop .invalidEscape

/-- Reads one character that is no escape, and counts its bytes. Where the bytes encode none, one
byte is passed over. -/
def readPlain (c : Cursor) : Option Char × Nat × Cursor :=
  match Text.decodeChar? c.rest with
  | some (ch, rest) =>
    let length := (Text.encodeChar ch).length
    (some ch, length, ⟨rest, c.line, c.column + length⟩)
  | none => (none, 1, c.advance)

/-- The place of a byte that encodes no character: the place of the closing quotation mark less
the bytes of the text from that byte on, in which every escape counts as the character that it
stands for. -/
def brokenPlace (closing : Cursor) (bytes : Nat) : Place :=
  ⟨closing.line, closing.column + 1 - bytes⟩

/-- Reads up to the closing quotation mark. `read` holds the characters so far, the last one
first, and `broken` the number of bytes from the first one on that encodes no character. -/
def readTextFrom : (items : Nat) → (read : List Char) → (broken : Option Nat) → Reader String
  | 0, _, _ => stop .endInText
  | items + 1, read, broken => fun c =>
    match c.head? with
    | none => stop .endInText c
    | some '"' =>
      -- A text that is no text is reported only at its end.
      match broken with
      | some bytes => .error ⟨.invalidCodePoint, brokenPlace c bytes⟩
      | none => .ok (String.ofList read.reverse, c.advance)
    | some '\\' =>
      match readEscape c.advance with
      | .ok (ch, c) =>
        readTextFrom items (ch :: read) (broken.map (· + (Text.encodeChar ch).length)) c
      | .error e => .error e
    | some b =>
      if b.toNat < 0x20 then stop .controlCharacter c.advance
      else
        match readPlain c with
        | (some ch, length, c) => readTextFrom items (ch :: read) (broken.map (· + length)) c
        | (none, length, c) => readTextFrom items read (some (broken.getD 0 + length)) c

/-- **Text**: reads a text, from its opening quotation mark on. -/
def readText (limits : Limits) : Reader String := do
  skip
  readTextFrom limits.items [] none

/-- Passes over an escape, after the backslash. -/
def skipEscape : Reader Unit := do
  match ← next with
  | none => stop .endInText
  | some 'u' => discard readHexNumber
  | some c =>
    if c ∈ ['"', '\\', '/', 'b', 'f', 'n', 'r', 't'] then return () else stop .invalidEscape

/-- Passes over a text up to its closing quotation mark. -/
def skipTextFrom : (items : Nat) → Reader Unit
  | 0 => stop .endInText
  | items + 1 => do
    match ← peek with
    | none => stop .endInText
    | some '"' => skip
    | some '\\' =>
      skip
      skipEscape
      skipTextFrom items
    | some b =>
      if b.toNat < 0x20 then stop .controlCharacter
      else
        skip
        skipTextFrom items

/-- Passes over a text, from its opening quotation mark on. -/
def skipText (limits : Limits) : Reader Unit := do
  skip
  skipTextFrom limits.items

/-- The written form of one character: the quotation mark, the backslash and control characters
are escaped. -/
def writeChar (c : Char) : List Char :=
  match c with
  | '"' => ['\\', '"']
  | '\\' => ['\\', '\\']
  | '\x08' => ['\\', 'b']
  | '\x0c' => ['\\', 'f']
  | '\n' => ['\\', 'n']
  | '\r' => ['\\', 'r']
  | '\t' => ['\\', 't']
  | _ =>
    if c.toNat < 0x20 then
      ['\\', 'u', '0', '0', Text.hexDigit (c.toNat / 16), Text.hexDigit (c.toNat % 16)]
    else [c]

/-- **Written text**: the written characters between quotation marks. -/
def writeText (s : String) : List Char := '"' :: s.toList.flatMap writeChar ++ ['"']

end SwapArchive.Json
