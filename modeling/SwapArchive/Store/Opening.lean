import SwapArchive.Store.Beside
import SwapArchive.Store.Path

/-!
# Opening shards

The file of a shard is found by the text of its path: a step upward takes back the name before it,
even if nothing stands there. Only a file on the way, or a name with too many bytes, is an obstacle.
-/

namespace SwapArchive.Tree

/-- The greatest number of bytes of a way to a file, each name with a slash in front. -/
def longestWay : Nat := 511

/-- The greatest number of bytes of the way to the file of a shard, which leaves room for the ways
to files beside it. -/
def longestShardWay : Nat := 504

/-- The number of bytes of a way, each name with a slash in front. -/
def wayLength (path : NodePath) : Nat := path.foldl (fun n name => n + name.utf8ByteSize + 1) 0

/-- Whether one can ask what stands somewhere. The answer may be that there is nothing. -/
def isOpenWay (t : Tree) (path : NodePath) : Bool :=
  match t.walk (.present [] .directory) (path.map .down) with
  | .ok _ | .error .missing => true
  | .error _ => false

/-- The way after one more step, if there is no obstacle. -/
def settleStep? (t : Tree) (path : NodePath) (next : PathStep) : Option NodePath :=
  let way := next.after path
  match next with
  | .stay | .up => some way
  | .down _ => if wayLength way ≤ longestWay && t.isOpenWay way then some way else none

/-- **Settled way**: where a path leads by its text, if there is no obstacle. -/
def settle? (t : Tree) (path : String) : Option NodePath := do
  let settled ← (stepsOf path).foldlM t.settleStep? (t.origin path)
  -- The top itself can be no shard.
  guard (!settled.isEmpty && wayLength settled ≤ longestShardWay)
  return settled

/-- The failure of a shard that cannot be opened. -/
def cannotOpen (name : String) : Failure := .database s!"unable to open database file: {name}"

/-- The failure of a name that holds a character of number zero, by the bytes before it. -/
def zeroInName (name : String) : Failure :=
  let before := String.ofList (name.toList.takeWhile (· != zeroChar))
  .database s!"nul byte found in provided data at position: {before.utf8ByteSize}"

/-- Whether the file is there that a shard takes its permissions from. -/
def hasModel (t : Tree) (l : Locator) : Bool :=
  match l.model with
  | some path => (t.present? path).isSome
  | none => true

/-- A shard whose file has been found, as far as what stands beside it allows to read it. -/
def connectContent (t : Tree) (name : String) (l : Locator) (place : NodePath)
    (content : Content) : Shard × Tree :=
  match t.settleBeside l place content with
  | (.error f, t) => (⟨name, some place, .refused, content, some f⟩, t)
  | (.ok writing, t) => (⟨name, some place, writing, content, none⟩, t)

/-- Opens the file of a shard, which is created if there is none and the mode allows it. -/
def connectFile (t : Tree) (name : String) (l : Locator) (path : String) : Outcome Shard × Tree :=
  match t.settle? path with
  | none => (.error (cannotOpen name), t)
  | some place =>
    -- The file to take the permissions from is asked for first, also if nothing is created.
    if !t.hasModel l then (.error transferFailed, t)
    else
      match t.node? place with
      | some (.file content) =>
        let (shard, t) := t.connectContent name l place content
        (.ok shard, t)
      | some .directory => (.error (if l.mode == .read then transferFailed else cannotOpen name), t)
      | none =>
        if l.mode == .create && t.isDirectory place.dropLast then
          let (shard, t) := (t.put place (.file .nothing)).connectContent name l place .nothing
          (.ok shard, t)
        else (.error (cannotOpen name), t)

def connectMemory (name : String) (l : Locator) : Shard :=
  ⟨name, none, if l.isWritable then .traceless else .refused, .nothing, none⟩

/-- **Connecting**: the shard of a name, whatever it holds. -/
def connect (t : Tree) (mode : OpenMode) (name : String) : Outcome Shard × Tree :=
  if name.toList.contains zeroChar then (.error (zeroInName name), t)
  else
    match Locator.ofName mode name with
    | .error f => (.error f, t)
    | .ok l =>
      match l.file with
      | none => (.ok (connectMemory name l), t)
      | some path => t.connectFile name l path

/-- **Saving**: the tree with the content of an open shard in its file. If it has changed, the
journal is taken away that was kept meanwhile. -/
def save (t : Tree) (s : Shard) : Tree :=
  match s.place with
  | none => t
  | some place =>
    if t.node? place == some (.file s.content) then t
    else
      let t := if s.writing == .journaled then t.erase (Companion.journal.beside place) else t
      t.put place (.file s.content)

/-- **Opening to write**: creates the file and its table if they are missing. The directory of the
file has to exist. A file that has been created stays if its table cannot be. -/
def openShard (t : Tree) (name : String) : Outcome Shard × Tree :=
  match t.connect .create name with
  | (.error f, t) => (.error f, t)
  | (.ok shard, t) =>
    match shard.obstacle with
    | some f => (.error f, t)
    | none =>
      match shard.prepare with
      | .error f => (.error f, t)
      | .ok shard => (.ok shard, t.save shard)

/-- **Opening to read**: the shard of a name, which is not changed. If something beside it is in the
way, it fails only when it is read. -/
def openReadOnly (t : Tree) (name : String) : Outcome Shard × Tree := t.connect .read name

end SwapArchive.Tree
