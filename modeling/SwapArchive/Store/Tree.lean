import SwapArchive.Store.Shard

/-!
# Trees of files

Files stand in a tree of directories. What stands in it is named by the names on the way to it,
from the top.
-/

namespace SwapArchive

/-- What stands somewhere in a tree. -/
inductive Node where
  | directory
  | file (content : Content)
  deriving DecidableEq, Repr, Inhabited

/-- The names on the way from the top to a node. -/
abbrev NodePath := List String

/-- A tree of directories and files. The working directory is part of it, and so are those
above. -/
structure Tree where
  home : NodePath
  nodes : List (NodePath × Node)
  deriving DecidableEq, Repr, Inhabited

namespace Tree

def empty (home : NodePath) : Tree := ⟨home, []⟩

/-- What stands somewhere. -/
def node? (t : Tree) (path : NodePath) : Option Node :=
  -- The directories down to the working directory are there without being listed.
  if path.isPrefixOf t.home then some .directory else t.nodes.lookup path

def isDirectory (t : Tree) (path : NodePath) : Bool := t.node? path == some .directory

def erase (t : Tree) (path : NodePath) : Tree :=
  { t with nodes := t.nodes.filter (·.1 != path) }

/-- The tree with a node in place of what stood there. -/
def put (t : Tree) (path : NodePath) (node : Node) : Tree :=
  { t with nodes := (t.erase path).nodes ++ [(path, node)] }

/-- The ways to the directories above a node, from the top downward. -/
def ancestors (path : NodePath) : List NodePath := (List.range path.length).map path.take

/-- The tree with a directory and those above it, where nothing else stands. -/
def putDirectories (t : Tree) (path : NodePath) : Tree :=
  (ancestors path ++ [path]).foldl
    (fun t p => if (t.node? p).isNone then t.put p .directory else t) t

/-- The tree with a file, and the directories above it. -/
def putFile (t : Tree) (path : NodePath) (content : Content) : Tree :=
  (t.putDirectories path.dropLast).put path (.file content)

/-- The tree with a node, and all that is below it, moved to another place. -/
def move (t : Tree) (source target : NodePath) : Tree :=
  let moved (path : NodePath) : NodePath :=
    if source.isPrefixOf path then target ++ path.drop source.length else path
  { t with nodes := (t.erase target).nodes.map fun (path, node) => (moved path, node) }

/-- The names of the files in a directory. -/
def fileNames (t : Tree) (path : NodePath) : List String :=
  t.nodes.filterMap fun (p, node) =>
    match node, p.getLast? with
    | .file _, some name => if p.dropLast = path then some name else none
    | _, _ => none

/-- The order of names by their bytes. -/
def nameOrder (a b : String) : Bool := a ≤ b

/-- The way to a node from the working directory, if it is below that. -/
def belowHome? (t : Tree) (path : NodePath) : Option NodePath :=
  if t.home.isPrefixOf path then some (path.drop t.home.length) else none

end Tree
end SwapArchive
