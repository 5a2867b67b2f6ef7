import SwapArchive.Text.Integer

/-!
# Reading decimal numbers

The amounts of a swap are decimal text. The text is an optional sign followed by digits with an
optional decimal point, at least one digit among them, and an optional exponent; or by one of the
words for infinity and for a value that is not a number. It stands for the float nearest to it.
-/

namespace SwapArchive.Decimal

/-- The number `± significand · 10 ^ power`. -/
structure Literal where
  negative : Bool
  significand : Nat
  power : Int
  deriving DecidableEq, Repr

/-- A power of ten that is greater than every float. -/
def greatestMagnitude : Int := 309

/-- A power of ten so small that every float but zero is greater. -/
def leastMagnitude : Int := -324

/-- The power of ten that is just greater than the number. -/
def Literal.magnitude (l : Literal) : Int := l.power + (toString l.significand).length

/-- The float nearest to a number without its sign. Numbers far outside of the range of floats are
not computed. -/
def Literal.absolute (l : Literal) : Float :=
  if l.significand = 0 || l.magnitude < leastMagnitude then 0.0
  else if greatestMagnitude < l.magnitude then 1.0 / 0.0
  else Float.ofScientific l.significand (l.power < 0) l.power.natAbs

/-- **Nearest float**: rounded to nearest, ties to even; too large a number becomes infinite. -/
def Literal.value (l : Literal) : Float := if l.negative then -l.absolute else l.absolute

/-- The digits at the front of a text, and what follows them. -/
def spanDigits (cs : List Char) : List Char × List Char :=
  (cs.takeWhile Char.isDigit, cs.dropWhile Char.isDigit)

def digitsValue (cs : List Char) : Nat :=
  cs.foldl (fun n c => n * 10 + (c.toNat - '0'.toNat)) 0

/-- An exponent: nothing, or `e`, an optional sign and at least one digit. -/
def readPower? : List Char → Option Int
  | [] => some 0
  | c :: cs =>
    if c == 'e' || c == 'E' then
      let (negative, digits) :=
        match cs with
        | '-' :: ds => (true, ds)
        | '+' :: ds => (false, ds)
        | ds => (false, ds)
      if digits.isEmpty || !digits.all Char.isDigit then none
      else some (if negative then -(digitsValue digits : Int) else digitsValue digits)
    else none

/-- Digits, an optional point with more digits, and an optional exponent. -/
def readLiteral? (negative : Bool) (cs : List Char) : Option Literal :=
  let (whole, rest) := spanDigits cs
  let (fraction, rest) :=
    match rest with
    | '.' :: ds => spanDigits ds
    | _ => ([], rest)
  if whole.isEmpty && fraction.isEmpty then none
  else
    (readPower? rest).map fun power =>
      ⟨negative, digitsValue (whole ++ fraction), power - fraction.length⟩

/-- A float without its sign. -/
def readMagnitude? (negative : Bool) (cs : List Char) : Option Float :=
  let word := cs.map Char.toLower
  if word == "inf".toList || word == "infinity".toList then
    some (if negative then -1.0 / 0.0 else 1.0 / 0.0)
  else if word == "nan".toList then some (0.0 / 0.0)
  else (readLiteral? negative cs).map Literal.value

/-- **Decimal text**: the float nearest to the number that the whole text stands for. -/
def readFloat? (s : String) : Option Float :=
  match s.toList with
  | '-' :: cs => readMagnitude? true cs
  | '+' :: cs => readMagnitude? false cs
  | cs => readMagnitude? false cs

end SwapArchive.Decimal
