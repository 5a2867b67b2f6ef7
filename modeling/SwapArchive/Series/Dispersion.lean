import SwapArchive.Failure

/-!
# Dispersion of prices

The median absolute deviation says how far prices lie from their median: it is the median of the
distances. It is followed over a window that moves along the prices, and is undefined until the
window is full. The whole window is reserved in memory before the first price.

Memory and the function that finds medians belong to the machine that the program runs on. What is
asked of that function is that it finds the median of prices that can be put in order.
-/

namespace SwapArchive

/-- **Median**: the price in the middle of the ordered prices, or the mean of the two there. -/
def median? (prices : List Float) : Option Float :=
  let ordered := prices.mergeSort fun a b => decide (a ≤ b)
  let half := ordered.length / 2
  if ordered.length % 2 = 1 then ordered[half]?
  else
    match ordered[half - 1]?, ordered[half]? with
    | some low, some high => some ((low + high) / 2.0)
    | _, _ => none

/-- **Median absolute deviation**: the median of the distances from the median. -/
def medianDeviation? (prices : List Float) : Option Float := do
  let centre ← median? prices
  median? (prices.map fun p => (p - centre).abs)

/-- What the program runs on: the bytes of memory that can be reserved, and what finds medians. -/
structure Machine where
  memory : Nat
  median : List Float → Except Crash Float

def priceBytes : Nat := 8

/-- The number of bytes from which on nothing can be reserved at once. -/
def addressLimit : Nat := 0x8000000000000000

namespace Machine

def reserve (m : Machine) (bytes : Nat) : Except Crash Unit :=
  if addressLimit ≤ bytes then .error .capacity
  else if m.memory < bytes then .error (.memory bytes)
  else .ok ()

/-- The deviation of prices, found with the medians of a machine. There is none without prices. -/
def medianDeviation? (m : Machine) (prices : List Float) : Except Crash (Option Float) :=
  if prices.isEmpty then .ok none
  else do
    let centre ← m.median prices
    return some (← m.median (prices.map fun p => (p - centre).abs))

/-- A machine that puts prices in order to find their median. What is not a number has no place in
the order; it is met with among three prices or more. -/
def ordering (memory : Nat) : Machine where
  memory
  median prices :=
    if 3 ≤ prices.length ∧ prices.any Float.isNaN then
      .error (.median
        s!"index out of bounds: the len is {prices.length} but the index is {prices.length}")
    else .ok ((median? prices).getD (0.0 / 0.0))

end Machine

/-- The last prices, oldest first, at most `size` of them. -/
structure RollingWindow where
  size : Nat
  prices : List Float
  deriving DecidableEq

namespace RollingWindow

/-- An empty window, reserved at once. It has room for one price at least. -/
def ofSize (m : Machine) (size : Nat) : Except Crash RollingWindow := do
  m.reserve (max size 1 * priceBytes)
  return ⟨max size 1, []⟩

def isFull (w : RollingWindow) : Bool := w.size ≤ w.prices.length

/-- The deviation of a full window. -/
def deviation? (m : Machine) (w : RollingWindow) : Except Crash (Option Float) :=
  if w.isFull then m.medianDeviation? w.prices else .ok none

/-- The window with a price more, and without the oldest if it was full. -/
def push (w : RollingWindow) (price : Float) : RollingWindow :=
  { w with prices := (if w.isFull then w.prices.tail else w.prices) ++ [price] }

end RollingWindow

/-- The deviation after each price, going on from a window. -/
def rollingFrom (m : Machine) (w : RollingWindow) : List Float → Except Crash (List (Option Float))
  | [] => .ok []
  | p :: rest => do
    -- The window has the price itself in it before it is asked.
    let deviation ← (w.push p).deviation? m
    return deviation :: (← rollingFrom m (w.push p) rest)

/-- **Rolling deviation** over a window of the given size, one value for each price. -/
def rollingDeviation (m : Machine) (prices : List Float) (size : Nat) :
    Except Crash (List (Option Float)) := do
  rollingFrom m (← RollingWindow.ofSize m size) prices

end SwapArchive
