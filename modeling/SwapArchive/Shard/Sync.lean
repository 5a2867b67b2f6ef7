import SwapArchive.Fetch.Run
import SwapArchive.Shard.Day
import SwapArchive.Store.Opening

/-!
# Syncing days

A day is fetched into its temporary file, from its last second back to its first, and the file gets
its final name once the run has ended without a failure. A run that failed leaves the temporary
file behind, and the next one goes on from the oldest swap in it. A day that has its final file is
left alone.
-/

namespace SwapArchive.Sync

open Fetch (Notice Report)

/-- What a sync works on. Writes are numbered through all days. -/
structure State (σ : Type) where
  tree : Tree
  source : σ
  writes : Nat
  fault : Nat → Option Interruption

/-- What came of a day. -/
inductive DayOutcome where
  /-- The day had its final file. -/
  | skipped
  /-- The day was fetched completely. -/
  | finalized (report : Report)
  /-- The run failed, and the temporary file was kept. -/
  | incomplete (report : Report)
  deriving DecidableEq, Repr, Inhabited

/-- Whether the days after this one have to wait. -/
def DayOutcome.isIncomplete : DayOutcome → Bool
  | incomplete _ => true
  | _ => false

/-- The result of a sync, what was noticed on the way, and the state left. -/
structure Result (α σ : Type) where
  outcome : Outcome α
  notices : List Notice
  state : State σ

/-- The cursor for a day: from the last second of the day, or an earlier stored one, down to the
last second of the day before. -/
def dayCursor (day : Day) (stored : Int) : Fetch.Cursor := ⟨min stored day.finish, day.start - 1⟩

def endRecord (day : Day) (report : Report) (rows : Nat) : Log.Record :=
  if report.reason.isComplete then
    .info "shard finalized" [
      ("shard", day.name),
      ("swaps", toString rows),
      ("inserted", toString report.stats.inserted)]
  else
    .warn "shard incomplete, temp file kept for resume" [
      ("shard", day.name),
      ("reason", report.reason.message)]

/-- The tree after a day: a complete day gets its final name. -/
def settleDay (directory : String) (day : Day) (report : Report) (tree : Tree) : Outcome Tree :=
  if report.reason.isComplete then
    tree.rename (day.temporaryPath directory) (day.finalPath directory)
  else .ok tree

/-- Fetches a day into its temporary shard, whose table is given. -/
def fetchDay (source : Source σ) (directory : String) (day : Day) (s : State σ) (shard : Shard)
    (table : Table) : Result DayOutcome σ :=
  let (stored, resumed) := Fetch.startTime table day.finish
  let finished :=
    Fetch.run source true (dayCursor day stored) ⟨table, s.writes, s.fault, shard.writing⟩ s.source
  let report := finished.report
  let filled := s.tree.save { shard with content := .table finished.medium.table }
  let notices := [.record (openedRecord (day.temporaryPath directory)), .record resumed,
      .record (.info "creating shard from subgraph" [("shard", day.name)])] ++ finished.notices
  -- What the run has written is saved before the rename, which may fail.
  let after (tree : Tree) : State σ :=
    { s with tree := tree, source := finished.source, writes := finished.medium.writes }
  match settleDay directory day report filled with
  | .error f => ⟨.error f, notices, after filled⟩
  | .ok tree =>
    { outcome := .ok (if report.reason.isComplete then .finalized report else .incomplete report)
      notices := notices ++ [.record (endRecord day report finished.medium.table.count)]
      state := after tree }

/-- **Syncing a day**: nothing is done if anything stands at its final path. -/
def syncDay (source : Source σ) (directory : String) (day : Day) (s : State σ) :
    Result DayOutcome σ :=
  if (s.tree.present? (day.finalPath directory)).isSome then
    ⟨.ok .skipped, [.record (.info "shard exists locally, skipping" [("shard", day.name)])], s⟩
  else
    -- The directory is made for the first day that needs it, and stays if that day fails.
    match s.tree.createDirectories directory with
    | (.error f, tree) => ⟨.error f, [], { s with tree := tree }⟩
    | (.ok (), tree) =>
      match tree.openShard (day.temporaryPath directory) with
      | (.error f, tree) => ⟨.error f, [], { s with tree := tree }⟩
      | (.ok shard, tree) =>
        match shard.table? with
        | .error f => ⟨.error f, [], { s with tree := tree }⟩
        | .ok table => fetchDay source directory day { s with tree := tree } shard table

/-- **Syncing days** in order. The first one that is not complete is the last. -/
def syncAll (source : Source σ) (directory : String) :
    List Day → State σ → Result (List (Day × DayOutcome)) σ
  | [], s => ⟨.ok [], [], s⟩
  | day :: days, s =>
    let first := syncDay source directory day s
    match first.outcome with
    | .error f => ⟨.error f, first.notices, first.state⟩
    | .ok outcome =>
      -- Days before this one would leave a gap behind them.
      if outcome.isIncomplete then ⟨.ok [(day, outcome)], first.notices, first.state⟩
      else
        let rest := syncAll source directory days first.state
        { rest with
          outcome := rest.outcome.map ((day, outcome) :: ·)
          notices := first.notices ++ rest.notices }

/-- **Syncing since a time**: every planned day, newest first. -/
def syncSince (source : Source σ) (directory : String) (initial now : Int) (s : State σ) :
    Result (List (Day × DayOutcome)) σ :=
  let days := planDays initial now
  let result := syncAll source directory days s
  { result with
    notices := .record (.info "syncing day shards" [
      ("days", toString days.length), ("dir", directory)]) :: result.notices }

end SwapArchive.Sync
