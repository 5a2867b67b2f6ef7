/-!
# Failures and crashes

Everything an archive operation can fail with. A failure is a cause, with the detail that names
what was wrong; the wording that a reader sees is derived from it in one place. Some operations can
also end the program in the middle, which is no failure that the program could handle.
-/

namespace SwapArchive

inductive Failure where
  /-- The configuration cannot be used. -/
  | config (detail : String)
  /-- A stored or received value is missing or unreadable. -/
  | data (detail : String)
  /-- There is too little data for the computation. -/
  | insufficientData (detail : String)
  /-- The remote source could not be reached or refused to answer. -/
  | transport (detail : String)
  /-- The remote source answered with something that is not a page of swaps. -/
  | malformedResponse (detail : String)
  /-- The record store refused an operation. -/
  | database (detail : String)
  /-- A file or directory could not be used. -/
  | io (detail : String)
  /-- A text is not the expected JSON document. -/
  | json (detail : String)
  deriving DecidableEq, Repr, Inhabited

namespace Failure

/-- The words that introduce each cause. -/
def heading : Failure → String
  | config _ => "Configuration error"
  | data _ => "Data error"
  | insufficientData _ => "Insufficient data"
  | transport _ => "Transport error"
  | malformedResponse _ => "Malformed response"
  | database _ => "Database error"
  | io _ => "I/O error"
  | json _ => "JSON error"

/-- What in particular was wrong. -/
def detail : Failure → String
  | config d | data d | insufficientData d | transport d
  | malformedResponse d | database d | io d | json d => d

/-- **Message**: the heading of the cause, a colon, and the detail. -/
def message (f : Failure) : String := f.heading ++ ": " ++ f.detail

end Failure

/-- The value of an operation, or why there is none. -/
abbrev Outcome := Except Failure

/-- Why a program ends in the middle of an operation. -/
inductive Crash where
  /-- A result leaves the range of 64-bit words. -/
  | overflow (operation : String)
  | zeroDivisor
  /-- What is reserved at once is more than memory can be asked for. -/
  | capacity
  /-- There is no memory for what is reserved. -/
  | memory (bytes : Nat)
  /-- No median is found of the prices that are given. -/
  | median (reason : String)
  deriving DecidableEq, Repr

def Crash.message : Crash → String
  | overflow operation => s!"attempt to {operation} with overflow"
  | zeroDivisor => "attempt to divide by zero"
  | capacity => "capacity overflow"
  | memory bytes => s!"memory allocation of {bytes} bytes failed"
  | median reason => reason

/-- Why an operation that can end the program has no value. -/
inductive Halt where
  | failed (failure : Failure)
  | crashed (crash : Crash)
  deriving DecidableEq, Repr

end SwapArchive
