import SwapArchive.Store.Scan
import SwapArchive.Log

/-!
# Shards

A shard is a file with a table, opened to be read and written or to be read only, or a table in
memory. A file that holds no table can be opened to be read as well; it fails when it is read.
-/

namespace SwapArchive

/-- What a file holds. -/
inductive Content where
  /-- Nothing: a shard in which no table has been created. -/
  | nothing
  | table (table : Table)
  /-- Text, which is no shard. -/
  | text (bytes : List UInt8)
  deriving DecidableEq, Repr, Inhabited

/-- The content of a file with a text. -/
def Content.ofText (text : String) : Content :=
  if text.isEmpty then nothing else .text (Text.encode text)

def Content.table? : Content → Outcome Table
  | table t => .ok t
  | nothing => .error (.database "no such table: swaps")
  | text _ => .error (.database "file is not a database")

/-- An open shard: its name in log records, the way to its file if it has one, whether it can be
written, the content, and why that cannot be read if so. -/
structure Shard where
  label : String
  place : Option (List String)
  writing : Writing
  content : Content
  obstacle : Option Failure := none
  deriving DecidableEq, Repr, Inhabited

namespace Shard

/-- The name that stands for a shard in memory. -/
def memoryName : String := ":memory:"

def inMemory : Shard := ⟨memoryName, none, .traceless, .table .empty, none⟩

/-- The table of a shard, if it can be read. -/
def table? (s : Shard) : Outcome Table :=
  match s.obstacle with
  | some f => .error f
  | none => s.content.table?

/-- **Preparing**: a shard with nothing in it gets its table. -/
def prepare (s : Shard) : Outcome Shard :=
  match s.content with
  | .table _ => .ok s
  | .text _ => .error (.database "file is not a database")
  | .nothing =>
    match s.writing.obstacle? with
    | some f => .error f
    | none => .ok { s with content := .table .empty }

/-- **Writes a page** of entries, with an interruption or without. Writing nothing is the commit
alone, and needs no table. -/
def write (s : Shard) (interruption : Option Interruption) (entries : List Entry) :
    Outcome Nat × Shard :=
  match s.table? with
  | .error f =>
    -- No statement runs, so that the missing table is not noticed.
    if entries.isEmpty then ((Table.empty.write s.writing interruption []).1, s) else (.error f, s)
  | .ok t =>
    let (written, t) := t.write s.writing interruption entries
    (written, { s with content := .table t })

/-- Writes a page that nothing interrupts. -/
def insertAll (s : Shard) (entries : List Entry) : Outcome Nat × Shard := s.write none entries

def insert (s : Shard) (e : Entry) : Outcome Bool × Shard :=
  let (written, s) := s.insertAll [e]
  (written.map (· != 0), s)

/-- Appends a row with a text that need not be a swap. -/
def append (s : Shard) (key text : String) (time : Int) : Outcome Unit × Shard :=
  match s.table? with
  | .error f => (.error f, s)
  | .ok t =>
    if s.writing == .refused then (.error writeRefused, s)
    -- A key that is there is refused before a journal is needed.
    else if t.contains key then
      (.error (.database "UNIQUE constraint failed: swaps.swap_id"), s)
    else
      match s.writing.obstacle? with
      | some f => (.error f, s)
      | none => (.ok (), { s with content := .table (t.append key text time) })

def count (s : Shard) : Outcome Nat := do return (← s.table?).count

def earliest? (s : Shard) : Outcome (Option Int) := do return (← s.table?).earliest?

/-- Every entry; a shard that cannot be read yields its failure. -/
def scan (s : Shard) : List (Outcome Entry) :=
  match s.table? with
  | .error f => [.error f]
  | .ok t => t.scan scanBatch

end Shard

/-- What is reported when a shard has been opened to be written. -/
def openedRecord (path : String) : Log.Record := .debug "opened shard" [("path", path)]

end SwapArchive
