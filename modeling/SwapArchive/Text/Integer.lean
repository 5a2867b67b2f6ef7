/-!
# Integers in decimal text

An integer is an optional sign and at least one decimal digit, with a value inside a given range.
Reading goes from left to right and stops at the first fault, so a text with two faults is refused
for the one that is met first.
-/

namespace SwapArchive.Text

/-- The integers between two bounds, both included. -/
structure IntegerRange where
  least : Int
  greatest : Int
  deriving DecidableEq, Repr

namespace IntegerRange

def signed64 : IntegerRange := ⟨-9223372036854775808, 9223372036854775807⟩

def unsigned64 : IntegerRange := ⟨0, 18446744073709551615⟩

def unsigned32 : IntegerRange := ⟨0, 4294967295⟩

def contains (range : IntegerRange) (n : Int) : Bool := range.least ≤ n && n ≤ range.greatest

end IntegerRange

/-- Why a text is no integer of a range. -/
inductive IntegerFault where
  | empty
  | invalidDigit
  | tooLarge
  | tooSmall
  deriving DecidableEq, Repr

def IntegerFault.message : IntegerFault → String
  | empty => "cannot parse integer from empty string"
  | invalidDigit => "invalid digit found in string"
  | tooLarge => "number too large to fit in target type"
  | tooSmall => "number too small to fit in target type"

/-- The value of a decimal digit of ASCII. -/
def digitValue? (c : Char) : Option Nat :=
  if '0' ≤ c ∧ c ≤ '9' then some (c.toNat - '0'.toNat) else none

/-- **Digits**: continues the value `n` by the digits of a text, each taken with the sign. The
value is checked after every digit. -/
def readDigits (range : IntegerRange) (negative : Bool) : Int → List Char → Except IntegerFault Int
  | n, [] => .ok n
  | n, c :: cs =>
    match digitValue? c with
    | none => .error .invalidDigit
    | some d =>
      let next := if negative then n * 10 - d else n * 10 + d
      if range.greatest < next then .error .tooLarge
      else if next < range.least then .error .tooSmall
      else readDigits range negative next cs

/-- **Integer text**: an optional sign and digits. A minus sign is a sign only where the range
has negative values. -/
def readInteger (range : IntegerRange) (s : String) : Except IntegerFault Int :=
  match s.toList with
  | [] => .error .empty
  | ['+'] | ['-'] => .error .invalidDigit
  | '+' :: cs => readDigits range false 0 cs
  | '-' :: cs =>
    if range.least < 0 then readDigits range true 0 cs else .error .invalidDigit
  | cs => readDigits range false 0 cs

end SwapArchive.Text
