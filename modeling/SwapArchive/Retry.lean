import SwapArchive.Failure
import SwapArchive.Log

/-!
# Retrying

A source that could not be reached is asked again after a while, which doubles every time. Any
other failure would come back, and is final at once.

## Design notes

Delays are computed in words of 64 bits. Doubling stops at the greatest word. A random part of up
to a tenth either way is added as a signed word. The random draw is an argument, so an operation
is run for any draws, and the draw in the middle adds nothing.
-/

namespace SwapArchive

/-- How often a failed operation is repeated, and the first delay. -/
structure RetryPolicy where
  baseMillis : UInt64 := 500
  maxRetries : UInt32 := 3
  deriving DecidableEq, Repr, Inhabited

def maxDelayMillis : UInt64 := 30000

/-- A number as a word, or the greatest word. -/
def saturate (n : Nat) : UInt64 := UInt64.ofNat (min n 18446744073709551615)

namespace RetryPolicy

/-- The base delay doubled once for every attempt. -/
def exponential (policy : RetryPolicy) (attempt : Nat) : UInt64 :=
  saturate (policy.baseMillis.toNat * (saturate (Nat.pow 2 (min attempt 64))).toNat)

/-- How far a delay may be moved either way. -/
def jitterRange (policy : RetryPolicy) (attempt : Nat) : UInt64 := policy.exponential attempt / 10

/-- **Delay** before the attempt after number `attempt`, counted from zero. The draw lies between
zero and twice the range, and moves the delay by its distance from the range. -/
def delay (policy : RetryPolicy) (attempt : Nat) (draw : UInt64) : UInt64 :=
  let exponential := policy.exponential attempt
  let range := policy.jitterRange attempt
  let jitter : Int64 := if range = 0 then 0 else draw.toInt64 - range.toInt64
  -- The sum is one of signed words: it wraps, and a word from the upper half counts as negative.
  let moved := exponential.toInt64 + jitter
  min (if moved < 0 then 0 else moved.toUInt64) maxDelayMillis

def attempts (policy : RetryPolicy) : UInt32 := policy.maxRetries + 1

end RetryPolicy

/-- A pause between two attempts. -/
structure Pause where
  attempt : Nat
  millis : UInt64
  reason : String
  deriving DecidableEq, Repr

/-- What came of an operation: its last result, how often it was called, the pauses in between, and
the state that the calls left. -/
structure Retried (α σ : Type) where
  result : Outcome α
  calls : Nat
  pauses : List Pause
  state : σ

namespace RetryPolicy

/-- The failure of the last attempt. It tells how many there were, if there could be more than
one. -/
def givingUp (policy : RetryPolicy) (reason : String) : Failure :=
  if policy.maxRetries = 0 then .transport reason
  else .transport s!"giving up after {policy.attempts} attempts: {reason}"

/-- Runs an operation with `left` attempts left after this one, which has the number `attempt`. -/
def runFrom (policy : RetryPolicy) (draw : Nat → UInt64) (operation : σ → Outcome α × σ) :
    (left attempt : Nat) → σ → Retried α σ
  | left, attempt, s =>
    match operation s, left with
    | (.error (.transport reason), s), left + 1 =>
      -- Only this failure is retried; the draw of a pause goes by its attempt.
      let rest := runFrom policy draw operation left (attempt + 1) s
      { rest with
        calls := rest.calls + 1
        pauses := ⟨attempt, policy.delay attempt (draw attempt), reason⟩ :: rest.pauses }
    | (.error (.transport reason), s), 0 => ⟨.error (policy.givingUp reason), 1, [], s⟩
    | (result, s), _ => ⟨result, 1, [], s⟩

/-- **Run**: calls an operation until it gives a result that is not a transport failure, or the
attempts are used up. -/
def run (policy : RetryPolicy) (draw : Nat → UInt64) (operation : σ → Outcome α × σ) (s : σ) :
    Retried α σ :=
  policy.runFrom draw operation policy.maxRetries.toNat 0 s

def pauseRecord (policy : RetryPolicy) (pause : Pause) : Log.Record :=
  .warn "request failed, retrying" [
    ("attempt", toString (pause.attempt + 1)),
    ("max_attempts", toString policy.attempts),
    ("delay_ms", toString pause.millis),
    ("error", pause.reason)]

/-- Draws that leave every delay where it is. -/
def centred (policy : RetryPolicy) (attempt : Nat) : UInt64 := policy.jitterRange attempt

end RetryPolicy

end SwapArchive
