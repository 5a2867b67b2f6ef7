/-!
# Binary floating point, taken apart

A finite 64-bit float is a sign, a whole number and a power of two. Everything that is said about
decimal text rests on this exact reading of the bits.
-/

namespace SwapArchive.Decimal

/-- What the bits of a float say. -/
inductive Parts where
  | nan
  | infinite (negative : Bool)
  /-- The value `± mantissa · 2 ^ exponent`. -/
  | finite (negative : Bool) (mantissa : Nat) (exponent : Int)
  deriving DecidableEq, Repr

/-- The mantissa of the least number with a full-length mantissa, `2 ^ 52`. -/
def fullMantissa : Nat := 4503599627370496

/-- The exponent of the smallest positive float. -/
def leastExponent : Int := -1074

/-- **Parts of a float**: eleven bits of exponent and fifty-two of mantissa, with the leading bit
implied unless the exponent bits are all zero. -/
def Parts.ofFloat (x : Float) : Parts :=
  let bits := x.toBits.toNat
  let negative := bits / 9223372036854775808 == 1
  let biased := bits / fullMantissa % 2048
  let fraction := bits % fullMantissa
  if biased == 2047 then
    if fraction == 0 then .infinite negative else .nan
  else if biased == 0 then .finite negative fraction leastExponent
  else .finite negative (fullMantissa + fraction) (biased - 1 + leastExponent)

end SwapArchive.Decimal
