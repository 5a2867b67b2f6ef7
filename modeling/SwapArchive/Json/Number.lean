import SwapArchive.Json.Cursor
import SwapArchive.Decimal.Literal

/-!
# Numbers in a document

A number without a fraction and an exponent is an integer as long as it fits into 64 bits. Every
other number is a float. Its digits are gathered into 64 bits, what does not fit is left out, and
the result is scaled by powers of ten, so a long number may come out next to the nearest float.
-/

namespace SwapArchive.Json

/-- A number as the document gives it. -/
inductive Number where
  | integer (value : Int)
  | float (value : Float)

/-- The greatest number that the digits are gathered into. -/
def greatestSignificand : Nat := 18446744073709551615

/-- Ten to a power that a float can hold. -/
def powerOfTen (n : Nat) : Float := Float.ofScientific 1 false n

/-- Divides by ten to the power `n`, in steps that a float can hold. -/
def scaleDown (x : Float) (n : Nat) : Float :=
  if n ≤ 308 then x / powerOfTen n
  else if x == 0 then x
  else scaleDown (x / powerOfTen 308) (n - 308)
termination_by n

/-- **Scaling**: a float times ten to a power, or nothing if that is too large for a float. -/
def scale? (x : Float) (power : Int) : Option Float :=
  if power < 0 then some (scaleDown x power.natAbs)
  else if power ≤ 308 then
    let scaled := x * powerOfTen power.toNat
    if scaled.isInf then none else some scaled
  else if x == 0 then some x
  else none

def peekDigit : Reader Bool := do
  match ← peek with
  | some c => return c.isDigit
  | none => return false

/-- The digits from here on, and the cursor after them. -/
def digitsFrom (line column : Nat) : List UInt8 → List Nat × Cursor
  | [] => ([], ⟨[], line, column⟩)
  | b :: rest =>
    let c := Char.ofUInt8 b
    if c.isDigit then
      let (digits, after) := digitsFrom line (column + 1) rest
      ((c.toNat - 48) :: digits, after)
    else ([], ⟨b :: rest, line, column⟩)

/-- Reads all digits up to the next byte that is none. -/
def readDigits : Reader (List Nat) := fun c => .ok (digitsFrom c.line c.column c.rest)

/-- Gathers digits until one does not fit, and returns the digits left. -/
def gather : (significand : Nat) → List Nat → Nat × List Nat
  | n, [] => (n, [])
  | n, d :: ds =>
    if greatestSignificand < n * 10 + d then (n, d :: ds) else gather (n * 10 + d) ds

/-- A float from its gathered digits, a sign and a power of ten. -/
def floatOf (negative : Bool) (significand : Nat) (power : Int) : Reader Number := do
  match scale? significand.toUInt64.toFloat power with
  | some x => return .float (if negative then -x else x)
  | none => stop .numberOutOfRange

/-- The greatest exponent that is told from its digits. -/
def greatestExponent : Nat := 2147483647

/-- The exponent that the digits continue, and the cursor after them; nothing, and the cursor after
the digit in question, once the exponent is too large. -/
def exponentFrom (line column : Nat) (n : Nat) : List UInt8 → Option Nat × Cursor
  | [] => (some n, ⟨[], line, column⟩)
  | b :: rest =>
    let c := Char.ofUInt8 b
    if c.isDigit then
      let n := n * 10 + (c.toNat - 48)
      if greatestExponent < n then (none, ⟨rest, line, column + 1⟩)
      else exponentFrom line (column + 1) n rest
    else (some n, ⟨b :: rest, line, column⟩)

/-- Reads an exponent, from its letter on, and completes the float. -/
def readExponent (negative : Bool) (significand : Nat) (power : Int) : Reader Number := do
  skip
  let sign ← peek
  if sign == some '+' || sign == some '-' then skip
  match ← next with
  | none => stop .endInValue
  | some c =>
    if !c.isDigit then stop .invalidNumber
    else
      let c₀ ← get
      let (exponent, after) := exponentFrom c₀.line c₀.column (c.toNat - 48) c₀.rest
      set after
      match exponent with
      | some e => floatOf negative significand (if sign == some '-' then power - e else power + e)
      | none =>
        -- The exponent is beyond all floats: with a minus the number is zero, and a zero stays one.
        if significand != 0 && sign != some '-' then stop .numberOutOfRange
        else
          discard readDigits
          return .float (if negative then -0.0 else 0.0)

/-- Completes a float after its last digit. -/
def readPower (negative : Bool) (significand : Nat) (power : Int) : Reader Number := do
  match ← peek with
  | some 'e' | some 'E' => readExponent negative significand power
  | _ => floatOf negative significand power

/-- Reads a fraction, from its point on, and completes the float. -/
def readFraction (negative : Bool) (significand : Nat) (power : Int) : Reader Number := do
  skip
  let digits ← readDigits
  if digits.isEmpty then
    match ← peek with
    | some _ => stopAtNext .invalidNumber
    | none => stopAtNext .endInValue
  else
    -- Digits that do not fit are dropped, for behind the point they do not move it.
    let (significand, left) := gather significand digits
    readPower negative significand (power - (digits.length - left.length : Nat))

/-- The number after its integral digits. `power` is the number of digits that did not fit. -/
def readAfterDigits (negative : Bool) (significand power : Nat) : Reader Number := do
  match ← peek with
  | some '.' => readFraction negative significand power
  | some 'e' | some 'E' => readExponent negative significand power
  | _ =>
    if power != 0 then floatOf negative significand power
    else if !negative then return .integer significand
    -- There is no integer for the negative zero, nor for one below the least word.
    else if significand == 0 || 9223372036854775808 < significand then
      return .float (-significand.toUInt64.toFloat)
    else return .integer (-significand)

/-- **Number**: reads a number after its sign. A zero stands alone before the point. -/
def readNumber (negative : Bool) : Reader Number := do
  match ← next with
  | none => stop .endInValue
  | some c =>
    if c == '0' then
      if ← peekDigit then stopAtNext .invalidNumber
      else readAfterDigits negative 0 0
    else if c.isDigit then
      let digits ← readDigits
      let (significand, left) := gather (c.toNat - 48) digits
      readAfterDigits negative significand left.length
    else stop .invalidNumber

/-- Passes over an exponent, from its letter on. -/
def skipExponent : Reader Unit := do
  skip
  let sign ← peek
  if sign == some '+' || sign == some '-' then skip
  match ← next with
  | some c => if c.isDigit then discard readDigits else stop .invalidNumber
  | none => stop .invalidNumber

/-- Passes over a number after its sign. -/
def skipNumber : Reader Unit := do
  match ← next with
  | none => stop .invalidNumber
  | some c =>
    if c == '0' then
      if ← peekDigit then stopAtNext .invalidNumber
    else if c.isDigit then discard readDigits
    else stop .invalidNumber
  match ← peek with
  | some '.' =>
    skip
    let digits ← readDigits
    if digits.isEmpty then stopAtNext .invalidNumber
    match ← peek with
    | some 'e' | some 'E' => skipExponent
    | _ => return ()
  | some 'e' | some 'E' => skipExponent
  | _ => return ()

end SwapArchive.Json
