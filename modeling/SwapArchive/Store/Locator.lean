import SwapArchive.Failure
import SwapArchive.Store.Shard
import SwapArchive.Text.Ascii
import SwapArchive.Text.Hex
import SwapArchive.Text.Percent
import SwapArchive.Text.Split

/-!
# Names of shards

A shard is opened by a name. Most names are paths. A name that starts with `file:` is an address: a
path with percent encoding, and options behind a question mark. Options say what may be done with
the file, which file system is used, whether locks are kept, whether the file is taken to be
unchanging, and which file a new one takes its permissions from. A number sign ends an address.
-/

namespace SwapArchive

open Text (cutAt splitAt percentDecode decodeMended)

/-- What may be done with the file of a shard. -/
inductive OpenMode where
  | read
  | write
  | create
  /-- There is no file: the shard is in memory. -/
  | memory
  deriving DecidableEq, Repr

namespace OpenMode

/-- The words for modes. -/
def named : List (String × OpenMode) :=
  [("ro", read), ("rw", write), ("rwc", create), ("memory", memory)]

def rank : OpenMode → Nat
  | read => 0
  | write => 1
  | create => 2
  | memory => 3

/-- Whether a mode may be asked for where another one is given: it must not permit more, but memory
can always be asked for. -/
def permits (given asked : OpenMode) : Bool := asked == memory || asked.rank ≤ given.rank

end OpenMode

/-- The parts of an address, decoded. -/
structure Address where
  path : String
  options : List (String × String)
  deriving DecidableEq, Repr

namespace Address

def scheme : String := "file:"

/-- The only machine that an address can name. -/
def ownMachine : String := "localhost"

/-- A part of an address, decoded. A byte of number zero ends it. -/
def decodePart (cs : List Char) : String :=
  decodeMended ((percentDecode cs).takeWhile (· != 0))

/-- An address without the name of a machine in front. -/
def dropMachine (cs : List Char) : Outcome (List Char) :=
  match cs with
  | '/' :: '/' :: rest =>
    let machine := String.ofList (rest.takeWhile (· != '/'))
    if machine.isEmpty || machine == ownMachine then .ok (rest.dropWhile (· != '/'))
    else .error (.database s!"invalid uri authority: {machine}")
  | _ => .ok cs

/-- The options of an address. Those without a name are left out. -/
def readOptions (cs : List Char) : List (String × String) :=
  ((splitAt (· == '&') cs).map fun option =>
    let (name, value) := cutAt (· == '=') option
    (decodePart name, decodePart (value.getD []))).filter (!·.1.isEmpty)

/-- **Address** in a text behind its scheme. -/
def ofText (text : List Char) : Outcome Address := do
  let cs ← dropMachine text
  let (path, options) := cutAt (· == '?') (cutAt (· == '#') cs).1
  return ⟨decodePart path, readOptions (options.getD [])⟩

/-- The number that digits of a base stand for. -/
def numberOf (base : Nat) (digits : List Nat) : Nat := digits.foldl (fun n d => n * base + d) 0

/-- The greatest number that an option can have. -/
def greatestNumber : Nat := 2147483647

/-- The hexadecimal digits at the start of a text. -/
def hexDigitsOf (text : List Char) : List Nat :=
  (text.takeWhile fun c => (Text.hexValue? c).isSome).filterMap Text.hexValue?

/-- The number at the start of a text, and no number at all if it is very great. Behind `0x` its
digits are hexadecimal. -/
def leadingNumber (text : List Char) : Nat :=
  let decimal := numberOf 10 ((text.takeWhile Char.isDigit).map fun c => c.toNat - 48)
  let n :=
    match text with
    | '0' :: sign :: rest =>
      if sign == 'x' || sign == 'X' then numberOf 16 (hexDigitsOf rest) else decimal
    | _ => decimal
  -- A number that does not fit counts as zero, which affirms nothing.
  if n ≤ greatestNumber then n else 0

/-- Whether the value of an option affirms it: a word, or a number whose last eight bits are not
all zero. -/
def affirms (value : String) : Bool :=
  if (value.toList.head?.map Char.isDigit).getD false then leadingNumber value.toList % 256 != 0
  else ["on", "yes", "true"].contains (String.ofList (Text.foldChars value.toList))

/-- Whether an option is affirmed. The first of several options of one name counts. -/
def isAffirmed (a : Address) (option : String) : Bool :=
  ((a.options.lookup option).map affirms).getD false

end Address

/-- How files are kept and locked. -/
inductive FileSystem where
  | usual
  /-- No locks are kept. -/
  | lockless
  /-- A lock is a directory beside the file. -/
  | lockBeside
  /-- Locks are kept until the file is closed. -/
  | exclusive
  /-- Files are kept in memory. -/
  | memory
  deriving DecidableEq, Repr

def FileSystem.named : List (String × FileSystem) :=
  [("unix", usual), ("unix-none", lockless), ("unix-dotfile", lockBeside), ("unix-excl", exclusive),
    ("memdb", memory)]

/-- What options have asked for so far. -/
structure Choices where
  mode : OpenMode
  system : Option String
  deriving DecidableEq, Repr

/-- The choices after one more option. The last of several options counts. -/
def Choices.take (c : Choices) : String × String → Outcome Choices
  | ("vfs", value) => .ok { c with system := some value }
  | ("cache", value) =>
    if value == "shared" || value == "private" then .ok c
    else .error (.database s!"no such cache mode: {value}")
  | ("mode", value) =>
    match OpenMode.named.lookup value with
    | none => .error (.database s!"no such access mode: {value}")
    | some mode =>
      if c.mode.permits mode then .ok { c with mode := mode }
      else .error (.database s!"access mode not allowed: {value}")
  | _ => .ok c

/-- Where a shard is kept and how it is opened: the path of its file unless it is in memory, what
may be done with it, how it is locked, whether it is taken to be unchanging, and the path of the
file whose permissions it takes. -/
structure Locator where
  file : Option String
  mode : OpenMode
  system : FileSystem := .usual
  keepsLocks : Bool := true
  isUnchanging : Bool := false
  model : Option String := none
  deriving DecidableEq, Repr

namespace Locator

def isWritable (l : Locator) : Bool := l.mode != .read && !l.isUnchanging

/-- Whether a path stands for a shard in memory. The empty path does, and its shard is dropped when
it is closed. -/
def isTransient (mode : OpenMode) (path : String) : Bool :=
  path.isEmpty || path == Shard.memoryName || mode == .memory

def ofOptions (mode : OpenMode) (system : FileSystem) (a : Address) : Locator :=
  if isTransient mode a.path then { file := none, mode := mode }
  else
    { file := if system == .memory then none else some a.path
      mode := mode
      system := system
      -- A word that affirms nothing leaves the option as if it were not there.
      keepsLocks := system != .lockless && !a.isAffirmed "nolock"
      isUnchanging := a.isAffirmed "immutable"
      model := a.options.lookup "modeof" }

def ofAddress (mode : OpenMode) (a : Address) : Outcome Locator := do
  let choices ← a.options.foldlM Choices.take ⟨mode, none⟩
  let name := choices.system.getD "unix"
  match FileSystem.named.lookup name with
  | none => .error (.database s!"no such vfs: {name}")
  | some system => return ofOptions choices.mode system a

/-- **Locator of a name**, which is a path or an address, for a mode that may be narrowed by the
options of the address. -/
def ofName (mode : OpenMode) (name : String) : Outcome Locator :=
  if name.startsWith Address.scheme then do
    ofAddress mode (← Address.ofText (name.toList.drop Address.scheme.length))
  else .ok (ofOptions mode .usual ⟨name, []⟩)

end Locator
end SwapArchive
