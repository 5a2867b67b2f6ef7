import SwapArchive.Decimal.Binary64

/-!
# Shortest decimal digits

Every float is the nearest one to a whole interval of real numbers. Its shortest decimal is the
number in that interval with the fewest digits, and of those the one nearest to the float.

## Design notes

All decimals with the digits of one power of ten form a grid, and the grids are nested. Walking
from coarse to fine, the first grid with a point in the interval gives the fewest digits, and only
the two grid points around the float have to be looked at.
-/

namespace SwapArchive.Decimal

/-- A decimal number `digits · 10 ^ power`. -/
structure Numeral where
  digits : Nat
  power : Int
  deriving DecidableEq, Repr

/-- Which of two neighbouring decimals is taken if they are equally near. -/
inductive Tie where
  /-- The one with an even last digit. -/
  | toEven
  /-- The greater one. -/
  | up
  deriving DecidableEq, Repr

/-- Whether a tie takes the lower of two neighbours, whose digits are given. -/
def Tie.takesLower : Tie → Nat → Bool
  | toEven, down => down % 2 == 0
  | up, _ => false

/-- The float `mantissa · 2 ^ exponent` in quarters of its last place, with the ends of the
interval of numbers that are nearer to it than to any other float. The ends belong to the interval
if the mantissa is even. -/
structure Neighbourhood where
  lower : Nat
  value : Nat
  upper : Nat
  exponent : Int
  closed : Bool

/-- The interval of a float. Below a power of two the floats lie twice as close. -/
def Neighbourhood.of (mantissa : Nat) (exponent : Int) : Neighbourhood :=
  let below := if mantissa == fullMantissa && leastExponent < exponent then 1 else 2
  -- Half a place up and half a place down, or a quarter where the floats below lie closer.
  ⟨4 * mantissa - below, 4 * mantissa, 4 * mantissa + 2, exponent - 2, mantissa % 2 == 0⟩

/-- `base ^ n` for a natural `n`, and one for a negative `n`. -/
def upward (base : Nat) (n : Int) : Nat := Nat.pow base n.toNat

/-- The point of the grid `10 ^ power` that represents the float, if the interval holds one: of
two such points the nearer, of two equally near the one that the tie takes. -/
def gridPoint? (tie : Tie) (v : Neighbourhood) (power : Int) : Option Nat :=
  -- Everything is multiplied by the denominators, so that the points are whole numbers.
  let scale := upward 2 v.exponent * upward 10 (-power)
  let cell := upward 10 power * upward 2 (-v.exponent)
  let value := v.value * scale
  let inside (d : Nat) : Bool :=
    let point := d * cell
    if v.closed then v.lower * scale ≤ point && point ≤ v.upper * scale
    else v.lower * scale < point && point < v.upper * scale
  let down := value / cell
  let up := down + 1
  match inside down, inside up with
  | true, true =>
    let below := value - down * cell
    let above := up * cell - value
    if below < above then some down
    else if above < below then some up
    else if tie.takesLower down then some down else some up
  | true, false => some down
  | false, true => some up
  | false, false => none

/-- Walks through `grids` grids from coarse to fine and takes the first point. -/
def firstGridPoint (tie : Tie) (v : Neighbourhood) : (grids : Nat) → (power : Int) → Numeral
  | 0, power => ⟨v.value * upward 2 v.exponent * upward 10 (-power)
      / (upward 10 power * upward 2 (-v.exponent)), power⟩
  | grids + 1, power =>
    match gridPoint? tie v power with
    | some d => ⟨d, power⟩
    | none => firstGridPoint tie v grids (power - 1)

/-- **Shortest decimal** of the float `mantissa · 2 ^ exponent`, for a positive mantissa. The walk
starts above the leading digit and passes seventeen digits, which tell any two floats apart. -/
def shortest (tie : Tie) (mantissa : Nat) (exponent : Int) : Numeral :=
  let magnitude := ((mantissa.log2 : Int) + exponent) * 30103 / 100000
  firstGridPoint tie (Neighbourhood.of mantissa exponent) 20 (magnitude + 2)

end SwapArchive.Decimal
