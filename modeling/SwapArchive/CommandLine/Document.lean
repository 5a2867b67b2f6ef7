import SwapArchive.CommandLine.Run

/-!
# Sessions as documents

A session can be written down as a JSON document: the files of its tree, and the replies that its
endpoint is going to give. A file with rows is a shard, one with a text is any other file, and one
with neither is a directory.
-/

namespace SwapArchive

open Json (Reader Limits Shape Value)

def Row.toJson (r : Row) : Value :=
  .object [("key", .text r.key), ("time", .integer r.time), ("swap", .text r.text)]

/-- A text as JSON. Bytes that are no text are left out. -/
def textOfBytes (bytes : List UInt8) : Value := .text ((Text.decode? bytes).getD "")

def Node.toJson (path : NodePath) (node : Node) : Value :=
  let content : List (String × Value) :=
    match node with
    | .directory => []
    | .file .nothing => [("text", .text "")]
    | .file (.text bytes) => [("text", textOfBytes bytes)]
    | .file (.table t) => [("rows", .list (t.rows.map Row.toJson))]
  .object (("path", .text (String.intercalate "/" path)) :: content)

/-- The files below the working directory of a tree as JSON. -/
def Tree.toJson (t : Tree) : Value :=
  .list (t.nodes.filterMap fun (path, node) => (t.belowHome? path).map node.toJson)

/-- The fields of a row read so far. -/
structure Row.Draft where
  key : Option String := none
  time : Option Int := none
  text : Option String := none

/-- A row without its number: key, text and time. -/
def Row.shape : Shape Row.Draft (String × String × Int) where
  title := "row"
  blank := {}
  fields := [
    .of "key" true (·.key) (fun d a => { d with key := some a }) Json.readString,
    .of "time" true (·.time) (fun d a => { d with time := some a }) readSigned64,
    .of "swap" true (·.text) (fun d a => { d with text := some a }) Json.readString]
  build d := do
    return (← Json.needed "key" d.key, ← Json.needed "swap" d.text, ← Json.needed "time" d.time)

/-- The fields of a file read so far. -/
structure Node.Draft where
  path : Option String := none
  text : Option String := none
  rows : Option (List (String × String × Int)) := none

def Table.ofRows (rows : List (String × String × Int)) : Table :=
  rows.foldl (fun t (key, text, time) => t.append key text time) .empty

/-- A path with what stands there. -/
def Node.shape : Shape Node.Draft (String × Node) where
  title := "file"
  blank := {}
  fields := [
    .of "path" true (·.path) (fun d a => { d with path := some a }) Json.readString,
    .of "text" false (·.text) (fun d a => { d with text := some a }) Json.readString,
    .of "rows" false (·.rows) (fun d a => { d with rows := some a })
      (Json.readList · (Json.readRecord Row.shape))]
  build d := do
    let path ← Json.needed "path" d.path
    match d.rows, d.text with
    | some rows, _ => return (path, .file (.table (.ofRows rows)))
    | none, some text => return (path, .file (.ofText text))
    | none, none => return (path, .directory)

/-- The fields of a reply read so far. -/
structure Reply.Draft where
  status : Option Int := none
  body : Option String := none

/-- A reply: its status, which is a success unless it is given, and its body. -/
def Reply.shape : Shape Reply.Draft Reply where
  title := "reply"
  blank := {}
  fields := [
    .of "body" true (·.body) (fun d a => { d with body := some a }) Json.readString,
    .of "status" false (·.status) (fun d a => { d with status := some a })
      (Json.readInteger · .unsigned32 "u32")]
  build d := do
    return .complete (d.status.getD 200).toNat (Text.encode (← Json.needed "body" d.body))

namespace CommandLine.Session

def empty : Session := ⟨.empty [], ⟨[], []⟩⟩

/-- The fields of a session read so far. -/
structure Draft where
  files : Option (List (String × Node)) := none
  replies : Option (List Reply) := none

/-- The tree with a file or directory, and the directories above it. -/
def addNode (t : Tree) (file : String × Node) : Tree :=
  match file with
  | (path, .directory) => t.putDirectories (t.wayOf path)
  | (path, .file content) => t.putFile (t.wayOf path) content

/-- A session: its files and the replies to come. -/
def shape : Shape Draft Session where
  title := "session"
  blank := {}
  fields := [
    .of "files" false (·.files) (fun d a => { d with files := some a })
      (Json.readList · (Json.readRecord Node.shape)),
    .of "replies" false (·.replies) (fun d a => { d with replies := some a })
      (Json.readList · (Json.readRecord Reply.shape))]
  build d := .ok ⟨(d.files.getD []).foldl addNode (.empty []), ⟨d.replies.getD [], []⟩⟩

/-- **Session of a document**. No text at all is a session with nothing in it. -/
def ofText (text : String) : Except Json.Error Session :=
  if (Text.trim text).isEmpty then .ok empty
  else Json.readDocument (Json.readRecord shape) (Text.encode text)

/-- **Files of a session** as a document. -/
def filesText (s : Session) : String := (Value.object [("files", s.tree.toJson)]).compact

end CommandLine.Session
end SwapArchive
