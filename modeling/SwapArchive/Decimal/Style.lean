import SwapArchive.Decimal.Shortest

/-!
# Writing floats

A float is written with its shortest decimal digits. What remains open is a matter of the format
that the number stands in: up to which size it is written without an exponent, whether a whole
number shows a decimal point, which of two equally near decimals is taken, and what stands for the
values that are no numbers. A format states these choices once, as a record.
-/

namespace SwapArchive.Decimal

/-- How a format writes floats. -/
structure Style where
  /-- The least and greatest power of the leading digit that are written without an exponent;
  `none` if every number is. -/
  positional : Option (Int × Int)
  /-- Whether a whole number ends in `.0`. -/
  pointAlways : Bool
  /-- Whether a positive exponent has a sign. -/
  plusSign : Bool
  /-- Which of two shortest decimals is taken if they are equally near. -/
  tie : Tie
  /-- What stands for a value that is not a number. -/
  notANumber : String
  /-- What stands for infinity, after the sign. -/
  infinity : String

namespace Style

/-- Digits without an exponent, the decimal point where the power of ten puts it. -/
def writePositional (style : Style) (digits : List Char) (power : Int) : List Char :=
  let whole := (digits.length : Int) + power
  if 0 ≤ power then
    digits ++ List.replicate power.toNat '0' ++ (if style.pointAlways then ['.', '0'] else [])
  else if 0 < whole then
    digits.take whole.toNat ++ ['.'] ++ digits.drop whole.toNat
  else
    ['0', '.'] ++ List.replicate (-whole).toNat '0' ++ digits

/-- One digit before the point, and the power of that digit after an `e`. -/
def writeExponent (style : Style) (digits : List Char) (leading : Int) : List Char :=
  let mantissa :=
    match digits with
    | d :: rest@(_ :: _) => d :: '.' :: rest
    | _ => digits
  let sign := if leading < 0 then ['-'] else if style.plusSign then ['+'] else []
  mantissa ++ ['e'] ++ sign ++ (toString leading.natAbs).toList

/-- The text of a positive decimal. -/
def writeDecimal (style : Style) (d : Numeral) : List Char :=
  let digits := (toString d.digits).toList
  let leading := (digits.length : Int) - 1 + d.power
  match style.positional with
  | none => style.writePositional digits d.power
  | some (least, greatest) =>
    if least ≤ leading ∧ leading ≤ greatest then style.writePositional digits d.power
    else style.writeExponent digits leading

/-- **Text of a float**: a minus sign for a negative value, negative zero included, then the
shortest digits. -/
def write (style : Style) (x : Float) : String :=
  match Parts.ofFloat x with
  | .nan => style.notANumber
  | .infinite negative => (if negative then "-" else "") ++ style.infinity
  | .finite negative mantissa exponent =>
    let magnitude :=
      if mantissa == 0 then (if style.pointAlways then "0.0" else "0")
      else String.ofList (style.writeDecimal (shortest style.tie mantissa exponent))
    (if negative then "-" else "") ++ magnitude

end Style
end SwapArchive.Decimal
