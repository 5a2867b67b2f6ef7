import SwapArchive.Failure
import SwapArchive.Log
import SwapArchive.Swap.Basic

/-!
# Sources of swaps

A source answers one question: which are the newest swaps up to a given time. It answers with a
page, which holds no more swaps than the page size, newest first, or it fails.
-/

namespace SwapArchive

/-- An answer of a source: the page or a failure, what was reported on the way, and the state of
the source afterwards. -/
structure Fetched (σ : Type) where
  reply : Outcome (List Swap)
  records : List Log.Record
  next : σ

/-- A source of swaps with a state. -/
structure Source (σ : Type) where
  pageSize : Nat
  /-- The newest swaps that are not after a time. -/
  fetch : Int → σ → Fetched σ

/-- The page of a history: the first swaps that are not after a time. -/
def pageOf (history : List Swap) (pageSize : Nat) (asOf : Int) : List Swap :=
  (history.filter (·.timestamp ≤ asOf)).take pageSize

namespace Source

/-- **Fixed history**: pages of a list of swaps that is ordered newest first. -/
def ofHistory (history : List Swap) (pageSize : Nat) : Source Unit where
  pageSize := pageSize
  fetch asOf _ := ⟨.ok (pageOf history pageSize asOf), [], ()⟩

/-- **Fixed pages**: one page after the other, and empty pages after the last. The state is the
list of pages left. -/
def ofPages (pageSize : Nat) : Source (List (List Swap)) where
  pageSize := pageSize
  fetch _ pages := ⟨.ok (pages.headD []), [], pages.tail⟩

/-- **Failing answers**: a source whose answers are numbered, of which some are failures. A failing
answer uses up the answer in its place. -/
def failing (source : Source σ) (fault : Nat → Option Failure) : Source (Nat × σ) where
  pageSize := source.pageSize
  fetch asOf state :=
    let (number, s) := state
    let answer := source.fetch asOf s
    let next := (number + 1, answer.next)
    match fault number with
    | some f => ⟨.error f, [], next⟩
    | none => ⟨answer.reply, answer.records, next⟩

/-- **Recorded questions**: a source that keeps the times it has been asked for, the last one
first. -/
def recorded (source : Source σ) : Source (List Int × σ) where
  pageSize := source.pageSize
  fetch asOf state :=
    let (asked, s) := state
    let answer := source.fetch asOf s
    ⟨answer.reply, answer.records, (asOf :: asked, answer.next)⟩

end Source
end SwapArchive
