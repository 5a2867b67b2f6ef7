import SwapArchive.Store.Locator
import SwapArchive.Store.Tree

/-!
# Files beside a shard

Up to four files belong to a shard and stand beside it. While a write goes on, a journal holds what
the write replaces; a journal that is found later shows that a write broke off, and it is taken away
before the shard is read. A log holds writes that are not part of the shard yet, and an index tells
what is in the log. A lock stands there while the shard is in use, in file systems that lock so.

## Design notes

A file that is empty counts as none. Nothing can be recovered from the journals and logs that are
found, because no text is a journal or a log, so they are dropped or left alone.
-/

namespace SwapArchive

/-- A file that belongs to a shard and stands beside it. -/
inductive Companion where
  | journal
  | log
  | index
  | lock
  deriving DecidableEq, Repr

namespace Companion

/-- What follows the name of the shard in the name of the file. -/
def ending : Companion → String
  | journal => "-journal"
  | log => "-wal"
  | index => "-shm"
  | lock => ".lock"

/-- **Way to the file** beside a shard. -/
def beside (c : Companion) (place : NodePath) : NodePath :=
  place.dropLast ++ [place.getLast?.getD "" ++ c.ending]

end Companion

/-- The failure of an operation on a file that is none. -/
def transferFailed : Failure := .database "disk I/O error"

/-- The failure of an attempt to use a shard that is in use. -/
def inUse : Failure := .database "database is locked"

/-- Whether a content starts with a byte of number zero. A journal that does so is not in use. -/
def Content.isVoid : Content → Bool
  | text (0 :: _) => true
  | _ => false

/-- The greatest number of bytes in the name of a shard that there can be a journal for. -/
def longestJournaledName : Nat := 247

namespace Tree

/-- What stands beside a shard, an empty file excepted. -/
def companion? (t : Tree) (place : NodePath) (c : Companion) : Option Node :=
  match t.node? (c.beside place) with
  | some (.file .nothing) => none
  | found => found

def isLocked (t : Tree) (place : NodePath) : Bool := (t.node? (Companion.lock.beside place)).isSome

/-- Whether a journal has to be left alone because the shard may be in use. -/
def mayBeInUse (t : Tree) (l : Locator) (place : NodePath) : Bool :=
  l.system == .lockBeside && (l.keepsLocks || t.isLocked place)

/-- **Journal before reading**: it is taken away, which needs the permission to write. One beside a
shard with nothing in it does no harm in any case. -/
def settleJournal (t : Tree) (l : Locator) (place : NodePath) (isEmpty : Bool) : Outcome Tree :=
  let dropped := t.erase (Companion.journal.beside place)
  match t.companion? place .journal with
  | none => .ok t
  | some node =>
    if t.mayBeInUse l place then .ok t
    else
      match node with
      | .directory => if isEmpty then .ok t else .error transferFailed
      | .file content =>
        if isEmpty then .ok (if l.mode == .read && l.keepsLocks then t else dropped)
        -- A journal that begins with zero is done with; any other tells of a write cut short.
        else if content.isVoid then .ok t
        else if l.mode == .read then .error writeRefused
        else .ok dropped

/-- Whether a log can be kept for a shard. An index is shared by means of locks. -/
def keepsLog (l : Locator) : Bool := l.keepsLocks && l.system != .lockBeside

/-- A shard with a log: how it can be written, and the tree afterwards. Whoever may write takes log
and index away in the end, and whoever may not leaves an index behind. -/
def useLog (t : Tree) (l : Locator) (place : NodePath) : Writing × Tree :=
  let index := Companion.index.beside place
  if l.mode == .read then
    (.refused, if (t.node? index).isSome then t else t.put index (.file (.text [0])))
  else
    let dropped := t.erase (Companion.log.beside place)
    if l.system == .exclusive then (.traceless, dropped)
    else if t.node? index == some .directory then (.refused, t)
    else (.traceless, dropped.erase index)

/-- **Log before reading**: one beside a shard with nothing in it is taken away, any other one is
used. Tells how the shard can be written if it has a log. -/
def settleLog (t : Tree) (l : Locator) (place : NodePath) (isEmpty : Bool) :
    Outcome (Option Writing × Tree) :=
  match t.companion? place .log with
  | none => .ok (none, t)
  | some node =>
    if isEmpty then
      if node == .directory then .error transferFailed
      else .ok (none, t.erase (Companion.log.beside place))
    else if keepsLog l && node != .directory then
      let (writing, t) := t.useLog l place
      .ok (some writing, t)
    else .error journalRefused

/-- How a shard without a log can be written. -/
def journalWriting (t : Tree) (l : Locator) (place : NodePath) : Writing :=
  if !l.isWritable then .refused
  else if t.companion? place .journal == some .directory
      || longestJournaledName < (place.getLast?.getD "").utf8ByteSize then .blocked
  else .journaled

/-- **Settling what stands beside a shard** before it is read: how it can be written, or why it
cannot even be read. A shard that is taken to be unchanging is read as it is. -/
def settleBeside (t : Tree) (l : Locator) (place : NodePath) (content : Content) :
    Outcome Writing × Tree :=
  let isEmpty := content == .nothing
  -- Nothing else uses a shard that does not change, so journal, log and lock are not looked at.
  if l.isUnchanging then (.ok .refused, t)
  else if l.system == .lockBeside && l.keepsLocks && t.isLocked place then (.error inUse, t)
  else
    match t.settleJournal l place isEmpty with
    | .error f => (.error f, t)
    | .ok t =>
      match t.settleLog l place isEmpty with
      | .error f => (.error f, t)
      | .ok (some writing, t) => (.ok writing, t)
      | .ok (none, t) => (.ok (t.journalWriting l place), t)

end Tree
end SwapArchive
