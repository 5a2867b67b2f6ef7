import SwapArchive.Failure
import SwapArchive.Text.Ascii
import SwapArchive.Text.Blank
import SwapArchive.Text.Integer
import SwapArchive.Text.Quoted
import SwapArchive.Decimal.Literal

/-!
# Swaps

A swap is one exchange of two tokens in a pool, as the source reports it. Its amounts stay decimal
text, so nothing is lost between the source and the archive; they become floats where they are
used.
-/

namespace SwapArchive

/-- One side of a pool: a token. -/
structure Leg where
  address : String
  symbol : String
  deriving DecidableEq, Repr, Inhabited

/-- Whether the leg is the token of an address, which may be written in any case. -/
def Leg.isToken (leg : Leg) (address : String) : Bool := Text.sameIgnoringCase leg.address address

/-- The transaction that a swap is part of. -/
structure Transaction where
  hash : String
  block : Option String
  deriving DecidableEq, Repr, Inhabited

/-- The pool that a swap took place in. -/
structure Pool where
  address : String
  token0 : Leg
  token1 : Leg
  deriving DecidableEq, Repr, Inhabited

/-- A swap, with the signed amounts that the pool gained of its two tokens. -/
structure Swap where
  id : String
  transaction : Transaction
  pool : Pool
  sender : Option String
  recipient : Option String
  amount0 : String
  amount1 : String
  timestamp : Int
  deriving DecidableEq, Repr, Inhabited

/-- **Amount**: the finite float that the text of an amount stands for. -/
def readAmount (field text : String) : Outcome Float :=
  match Decimal.readFloat? (Text.trim text) with
  | none => .error (.data (field ++ " is not a number: " ++ Text.quote text))
  | some x =>
    if x.isFinite then .ok x
    else .error (.data (field ++ " is not finite: " ++ Text.quote text))

namespace Swap

def flow0 (s : Swap) : Outcome Float := readAmount "amount0" s.amount0

def flow1 (s : Swap) : Outcome Float := readAmount "amount1" s.amount1

/-- **Validation**: a swap has an id, addresses on both legs, a time that is not negative and two
finite amounts. The first of these that fails is reported. -/
def validate (s : Swap) : Outcome Unit :=
  if s.id.isEmpty then .error (.malformedResponse "swap without id")
  else if s.pool.token0.address.isEmpty || s.pool.token1.address.isEmpty then
    .error (.malformedResponse s!"swap {s.id} has a pool leg without address")
  else if s.timestamp < 0 then
    .error (.malformedResponse s!"swap {s.id} has negative timestamp {s.timestamp}")
  else
    match s.flow0, s.flow1 with
    | .error f, _ => .error (.malformedResponse s!"swap {s.id}: {f.message}")
    | .ok _, .error f => .error (.malformedResponse s!"swap {s.id}: {f.message}")
    | .ok _, .ok _ => .ok ()

end Swap

/-- A swap under the key and the time that it is archived with. -/
structure Entry where
  key : String
  swap : Swap
  time : Int
  deriving DecidableEq, Repr, Inhabited

/-- **Entry of a swap**: a valid swap under its own id and time. -/
def Entry.ofSwap (s : Swap) : Outcome Entry := do
  s.validate
  return ⟨s.id, s, s.timestamp⟩

/-- The start of the period that a time falls into: the greatest multiple of the period that is not
after the time. -/
def bucketStart (time period : Int) : Int := time / period * period

/-- A result in 64-bit words. -/
def inWord (operation : String) (n : Int) : Except Crash Int :=
  if Text.IntegerRange.signed64.contains n then .ok n else .error (.overflow operation)

/-- **Bucket** of a time, in 64-bit words. -/
def bucketOf (time period : Int) : Except Crash Int :=
  if period = 0 then .error .zeroDivisor
  else do
    discard (inWord "divide" (time / period))
    inWord "multiply" (bucketStart time period)

end SwapArchive
