import SwapArchive.Store.Table

/-!
# Scanning a table

A table is read in batches, so that no more than one batch is held at a time. Every batch starts
after the last row of the one before.
-/

namespace SwapArchive

/-- A scan: the number of the last row that was fetched, the rows fetched but not yet yielded, and
whether there are no more to fetch. -/
structure Scan where
  lastId : Nat
  buffer : List Row
  exhausted : Bool
  deriving DecidableEq

namespace Scan

def start : Scan := ⟨0, [], false⟩

def batch (t : Table) (batchSize lastId : Nat) : List Row :=
  (t.rows.filter (lastId < ·.id)).take batchSize

/-- Fetches a batch. One that is not full is the last. -/
def fill (t : Table) (batchSize : Nat) (s : Scan) : Scan :=
  let rows := batch t batchSize s.lastId
  { lastId := (rows.getLast?.map (·.id)).getD s.lastId
    buffer := s.buffer ++ rows
    -- A full batch may have been the last as well; then the next one is empty.
    exhausted := rows.length < batchSize }

/-- **Next entry**: from the buffer, which is filled first if it is empty. There is a scan
afterwards even if there is no entry. -/
def next (t : Table) (batchSize : Nat) (s : Scan) : Option (Outcome Entry) × Scan :=
  let s := if s.buffer.isEmpty && !s.exhausted then s.fill t batchSize else s
  match s.buffer with
  | [] => (none, s)
  | row :: rest => (some row.entry, { s with buffer := rest })

/-- What a scan still yields, `count` entries of it at most. -/
def toList (t : Table) (batchSize : Nat) : (count : Nat) → Scan → List (Outcome Entry)
  | 0, _ => []
  | count + 1, s =>
    match s.next t batchSize with
    | (none, _) => []
    | (some entry, s) => entry :: toList t batchSize count s

end Scan

def scanBatch : Nat := 500

/-- **Scan**: the entries of a table, read in batches; no more than the number of rows. -/
def Table.scan (t : Table) (batchSize : Nat) : List (Outcome Entry) :=
  Scan.toList t batchSize t.count .start

end SwapArchive
