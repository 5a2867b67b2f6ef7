import SwapArchive.Store.Tree
import SwapArchive.Text.Split

/-!
# Paths

A path is a text that leads through a tree step by step, from the top if it starts with a slash and
from the working directory otherwise. Every step but the last has to lead to a directory; the last
one may lead to a free place.
-/

namespace SwapArchive

/-- One step on the way along a path. -/
inductive PathStep where
  | stay
  | up
  | down (name : String)
  deriving DecidableEq, Repr

/-- The step that a part of a path stands for. An empty part stands for none. -/
def PathStep.ofPart? (part : String) : Option PathStep :=
  if part.isEmpty then none
  else if part == "." then some .stay
  else if part == ".." then some .up
  else some (.down part)

/-- The way that a step leads to by its text alone. -/
def PathStep.after (way : NodePath) : PathStep → NodePath
  | .stay => way
  | .up => way.dropLast
  | .down name => way ++ [name]

/-- The parts of a path between its slashes. -/
def partsOf (path : String) : List String :=
  (Text.splitAt (· == '/') path.toList).map String.ofList

/-- **Steps** of a path. -/
def stepsOf (path : String) : List PathStep := (partsOf path).filterMap PathStep.ofPart?

/-- The steps of a path to something that is there. A slash at the end asks for a directory. -/
def strictSteps (path : String) : List PathStep :=
  stepsOf path ++ (if path.endsWith "/" then [.stay] else [])

/-- The paths above a path, the nearest first. -/
def pathsAbove (path : String) : List String :=
  let parts := (partsOf path).filter fun part => !part.isEmpty && part != "."
  let top := if path.startsWith "/" then "/" else ""
  (List.range (parts.length - 1)).reverse.map fun n =>
    top ++ String.intercalate "/" (parts.take (n + 1))

/-- Why a path leads nowhere, or to the wrong kind of place. -/
inductive PathFault where
  /-- There is nothing on the way or at its end. -/
  | missing
  /-- Something is there already. -/
  | occupied
  /-- A file stands where a directory has to be. -/
  | notDirectory
  /-- A directory stands where a file has to be. -/
  | isDirectory
  /-- A name or the whole path has too many bytes. -/
  | tooLong
  /-- There is a character of number zero in the path. -/
  | zeroCharacter
  deriving DecidableEq, Repr

def PathFault.message : PathFault → String
  | missing => "No such file or directory (os error 2)"
  | occupied => "File exists (os error 17)"
  | notDirectory => "Not a directory (os error 20)"
  | isDirectory => "Is a directory (os error 21)"
  | tooLong => "File name too long (os error 36)"
  | zeroCharacter => "file name contained an unexpected NUL byte"

/-- The failure of an operation that meets a fault. -/
def PathFault.failure (fault : PathFault) : Failure := .io fault.message

/-- The greatest number of bytes in a name. -/
def longestName : Nat := 255

/-- The greatest number of bytes in a path. -/
def longestPath : Nat := 4095

/-- The character of number zero, which no path can hold. -/
def zeroChar : Char := '\x00'

/-- Where a path leads: to something, or to a free place in a directory. -/
inductive Finding where
  | present (path : NodePath) (node : Node)
  | vacant (path : NodePath)
  deriving DecidableEq, Repr

namespace Tree

/-- A step from a directory. The top is above itself. -/
def step (t : Tree) (directory : NodePath) (next : PathStep) : Except PathFault Finding :=
  let path := next.after directory
  match next with
  | .stay | .up => .ok (.present path .directory)
  | .down name =>
    if longestName < name.utf8ByteSize then .error .tooLong
    else
      match t.node? path with
      | some node => .ok (.present path node)
      | none => .ok (.vacant path)

/-- **Walk**: one step after the other, from where the steps before have led. -/
def walk (t : Tree) : Finding → List PathStep → Except PathFault Finding
  | place, [] => .ok place
  | .present path .directory, next :: rest =>
    match t.step path next with
    | .ok place => t.walk place rest
    | .error fault => .error fault
  | .present _ (.file _), _ :: _ => .error .notDirectory
  | .vacant _, _ :: _ => .error .missing

def origin (t : Tree) (path : String) : NodePath := if path.startsWith "/" then [] else t.home

/-- The way that a path leads by its text alone. -/
def wayOf (t : Tree) (path : String) : NodePath :=
  (stepsOf path).foldl PathStep.after (t.origin path)

/-- Where steps lead that a path is made of, if it can be a path at all. -/
def findBy (steps : String → List PathStep) (t : Tree) (path : String) :
    Except PathFault Finding :=
  if path.toList.contains zeroChar then .error .zeroCharacter
  else if longestPath < path.utf8ByteSize then .error .tooLong
  else if path.isEmpty then .error .missing
  else t.walk (.present (t.origin path) .directory) (steps path)

/-- **Finding**: where a path leads. -/
def find (t : Tree) (path : String) : Except PathFault Finding := t.findBy strictSteps path

/-- What stands at the end of a path. -/
def present? (t : Tree) (path : String) : Option Node :=
  match t.find path with
  | .ok (.present _ node) => some node
  | _ => none

/-- Creates one directory. A slash after its name changes nothing. -/
def createDirectory (t : Tree) (path : String) : Except PathFault Tree :=
  match t.findBy stepsOf path with
  | .ok (.vacant place) => .ok (t.put place .directory)
  | .ok (.present ..) => .error .occupied
  | .error fault => .error fault

/-- Creates the first directory of a list. If the one above it is missing, the rest of the list is
created first. A directory that is there already does no harm. -/
def createNearest (t : Tree) : List String → Outcome Unit × Tree
  | [] => (.ok (), t)
  | path :: above =>
    -- Something may stand there by now, which does no harm if it is a directory.
    let settled (fault : PathFault) (t : Tree) : Outcome Unit × Tree :=
      (if t.present? path == some .directory then .ok () else .error fault.failure, t)
    match t.createDirectory path with
    | .ok t => (.ok (), t)
    | .error .missing =>
      match t.createNearest above with
      | (.error f, t) => (.error f, t)
      | (.ok (), t) =>
        match t.createDirectory path with
        | .ok t => (.ok (), t)
        | .error fault => settled fault t
    | .error fault => settled fault t

/-- **Creating directories**: a directory and those above it. What has been created stays if the
rest fails. The empty path asks for nothing. -/
def createDirectories (t : Tree) (path : String) : Outcome Unit × Tree :=
  if path.isEmpty then (.ok (), t) else t.createNearest (path :: pathsAbove path)

/-- **Renaming**: moves a file to another path. -/
def rename (t : Tree) (source target : String) : Outcome Tree :=
  match t.find source, t.find target with
  | .error fault, _ | _, .error fault => .error fault.failure
  | .ok (.vacant _), _ => .error PathFault.missing.failure
  | .ok (.present _ (.file _)), .ok (.present _ .directory) =>
    .error PathFault.isDirectory.failure
  | .ok (.present old _), .ok (.present new _) | .ok (.present old _), .ok (.vacant new) =>
    .ok (if old = new then t else t.move old new)

/-- **Content** of the file at a path. -/
def contentAt (t : Tree) (path : String) : Outcome Content :=
  match t.find path with
  | .error fault => .error fault.failure
  | .ok (.vacant _) => .error PathFault.missing.failure
  | .ok (.present _ .directory) => .error PathFault.isDirectory.failure
  | .ok (.present _ (.file content)) => .ok content

/-- **Writing**: the tree with a content in the file at a path, which need not be there before. -/
def write (t : Tree) (path : String) (content : Content) : Outcome Tree :=
  match t.find path with
  | .error fault => .error fault.failure
  | .ok (.present _ .directory) => .error PathFault.isDirectory.failure
  | .ok (.vacant place) | .ok (.present place (.file _)) => .ok (t.put place (.file content))

end Tree
end SwapArchive
