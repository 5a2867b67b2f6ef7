import SwapArchive.Calendar
import SwapArchive.Failure
import SwapArchive.Log

/-!
# Progress of a fetch run

A run walks backward in time. It tells where it starts, what every page brought, and why and where
it stopped.
-/

namespace SwapArchive.Fetch

/-- The time up to which swaps are asked for, and the time at which a run ends. -/
structure Cursor where
  asOf : Int
  lowerBound : Int
  deriving DecidableEq, Repr, Inhabited

/-- Whether the cursor has reached the end of the run. -/
def Cursor.isDone (c : Cursor) : Bool := c.asOf ≤ c.lowerBound

inductive StopReason where
  /-- The cursor reached the lower bound. -/
  | boundReached
  /-- The source had nothing older. -/
  | exhausted
  /-- The source failed, or a page held a swap that is not valid. -/
  | sourceFailed (message : String)
  /-- A page could not be written. -/
  | storeFailed (message : String)
  deriving DecidableEq, Repr, Inhabited

namespace StopReason

/-- Whether a run ended because there was nothing left to do. -/
def isComplete : StopReason → Bool
  | boundReached | exhausted => true
  | sourceFailed _ | storeFailed _ => false

/-- Whether a run ended because of a failure. -/
def isError (r : StopReason) : Bool := !r.isComplete

def message : StopReason → String
  | boundReached => "lower bound reached"
  | exhausted => "source exhausted"
  | sourceFailed m => "source failed: " ++ m
  | storeFailed m => "store failed: " ++ m

end StopReason

/-- What a run did: pages written, swaps on them, swaps that were new, and swaps left out because
they lie at or below the lower bound. -/
structure Stats where
  pages : Nat := 0
  fetched : Nat := 0
  inserted : Nat := 0
  clipped : Nat := 0
  deriving DecidableEq, Repr, Inhabited

/-- The outcome of a run: why and where it stopped, and what it did. -/
structure Report where
  reason : StopReason
  cursor : Cursor
  stats : Stats
  deriving DecidableEq, Repr, Inhabited

/-- Progress of a run. -/
inductive Event where
  | started (asOf lowerBound : Int)
  /-- A page was written; the cursor is where the run goes on. -/
  | pageCommitted (fetched inserted : Nat) (cursor : Int)
  | stopped (reason : StopReason) (cursor : Int) (stats : Stats)
  deriving DecidableEq, Repr

/-- **Report of an event**, under the name of what is fetched. A run that failed is an error. -/
def Event.record (label : String) : Event → Log.Record
  | started asOf lowerBound =>
    .info "fetch started" [
      ("source", label),
      ("as_of", describeTime asOf),
      ("lower_bound", describeTime lowerBound)]
  | pageCommitted fetched inserted cursor =>
    .info "page committed" [
      ("source", label),
      ("fetched", toString fetched),
      ("inserted", toString inserted),
      ("cursor", describeTime cursor)]
  | stopped reason cursor stats =>
    ⟨if reason.isError then .error else .info, "fetch stopped", [
      ("source", label),
      ("reason", reason.message),
      ("cursor", describeTime cursor),
      ("pages", toString stats.pages),
      ("total", toString stats.fetched)]⟩

/-- What happens in the course of a run. -/
inductive Notice where
  | event (event : Event)
  | record (record : Log.Record)
  deriving DecidableEq, Repr

def Notice.toRecord (label : String) : Notice → Log.Record
  | event e => e.record label
  | record r => r

def Notice.event? : Notice → Option Event
  | event e => some e
  | record _ => none

def eventsOf (notices : List Notice) : List Event := notices.filterMap Notice.event?

end SwapArchive.Fetch
