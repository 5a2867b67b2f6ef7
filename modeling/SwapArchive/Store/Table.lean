import SwapArchive.Failure
import SwapArchive.Swap.Json

/-!
# The table of a shard

A shard is a table of swaps in the order in which they were written. The first swap that is
written under a key stays; later ones with the same key change nothing. A swap is held as its
stored text, and is decoded when it is read.

A page is written in a transaction. Its rows are written one by one, each of these statements can
fail, and so can the commit at the end; the rows written so far are taken back then.
-/

namespace SwapArchive

/-- A row: its number in the order of writing, the stored text, the time and the key. -/
structure Row where
  id : Nat
  text : String
  time : Int
  key : String
  deriving DecidableEq, Repr, Inhabited

/-- **Decoding**: the entry of a row, or the data error of a text that is no swap. -/
def Row.entry (r : Row) : Outcome Entry :=
  match Swap.ofText r.text with
  | .ok s => .ok ⟨r.key, s, r.time⟩
  | .error e => .error (.data s!"stored swap {r.key} is unreadable: {e.message}")

/-- The failure of a write where only reading is possible. -/
def writeRefused : Failure := .database "attempt to write a readonly database"

/-- The failure of a write that needs a journal where there can be none. -/
def journalRefused : Failure := .database "unable to open database file"

/-- Whether a table can be written, and what a write does beside it. -/
inductive Writing where
  /-- A journal stands beside the table while a write goes on, and is taken away at its end. -/
  | journaled
  /-- A write leaves alone what stands beside the table. -/
  | traceless
  /-- There can be no journal, so that nothing new can be written. -/
  | blocked
  /-- The table can only be read. -/
  | refused
  deriving DecidableEq, Repr, Inhabited

/-- Why nothing new can be written, if that is so. -/
def Writing.obstacle? : Writing → Option Failure
  | journaled | traceless => none
  | blocked => some journalRefused
  | refused => some writeRefused

/-- The rows of a shard, oldest write first. -/
structure Table where
  rows : List Row
  deriving DecidableEq, Repr, Inhabited

namespace Table

def empty : Table := ⟨[]⟩

def count (t : Table) : Nat := t.rows.length

def contains (t : Table) (key : String) : Bool := t.rows.any (·.key == key)

def nextId (t : Table) : Nat := (t.rows.getLast?.map (·.id)).getD 0 + 1

/-- A table with a row after the others. -/
def append (t : Table) (key text : String) (time : Int) : Table :=
  ⟨t.rows ++ [⟨t.nextId, text, time, key⟩]⟩

/-- **Write**: appends the entry unless its key has been written. Tells whether it was appended. -/
def insert (t : Table) (e : Entry) : Table × Bool :=
  if t.contains e.key then (t, false) else (t.append e.key e.swap.stored e.time, true)

/-- **Write of a page**: writes entries one after the other. Tells how many were appended. -/
def insertAll (t : Table) : List Entry → Table × Nat
  | [] => (t, 0)
  | e :: rest =>
    let (t, isNew) := t.insert e
    let (t, n) := t.insertAll rest
    (t, n + isNew.toNat)

/-- **Statement that writes an entry**. Where nothing new can be written, what is there already may
still be written again, unless the table can only be read. -/
def insertRow (t : Table) (writing : Writing) (e : Entry) : Outcome (Table × Bool) :=
  match writing.obstacle? with
  | none => .ok (t.insert e)
  -- An entry that is there writes no row, so that it needs no journal.
  | some f => if writing == .blocked && t.contains e.key then .ok (t, false) else .error f

end Table

/-- A failure in the middle of a write: the number of the statement that fails, from zero on. -/
structure Interruption where
  statement : Nat
  failure : Failure
  deriving DecidableEq, Repr, Inhabited

/-- The failure of a statement, if it is the one that is interrupted. -/
def Interruption.failure? (interruption : Option Interruption) (statement : Nat) :
    Option Failure :=
  (interruption.filter (·.statement == statement)).map (·.failure)

namespace Table

/-- The statements of a transaction that writes a page: one for each entry, and the commit. The
table is left as it is when they end, or when one of them fails. -/
def insertRows (writing : Writing) (interruption : Option Interruption) :
    (statement : Nat) → Table → List Entry → Outcome Nat × Table
  | statement, t, [] =>
    match Interruption.failure? interruption statement with
    | some f => (.error f, t)
    | none => (.ok 0, t)
  | statement, t, e :: rest =>
    match Interruption.failure? interruption statement, t.insertRow writing e with
    | some f, _ | none, .error f => (.error f, t)
    | none, .ok (t, isNew) =>
      let (counted, t) := insertRows writing interruption (statement + 1) t rest
      (counted.map (· + isNew.toNat), t)

/-- **Write of a page** in a transaction, which is rolled back if a statement fails. Tells how many
entries were appended. -/
def write (t : Table) (writing : Writing) (interruption : Option Interruption)
    (entries : List Entry) : Outcome Nat × Table :=
  match insertRows writing interruption 0 t entries with
  | (.ok n, written) => (.ok n, written)
  -- What the statements before the failure have written is dropped.
  | (.error f, _) => (.error f, t)

def earliest? (t : Table) : Option Int := (t.rows.map (·.time)).min?

/-- Every row decoded, in the order of writing. -/
def entries (t : Table) : List (Outcome Entry) := t.rows.map Row.entry

end Table
end SwapArchive
