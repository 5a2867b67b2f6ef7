import SwapArchive.Text.Ascii
import SwapArchive.Url.Basic

/-!
# Reading addresses

An address is read leniently: blanks around it are dropped, characters that need it are encoded,
and paths are resolved. How much is interpreted depends on the scheme.
-/

namespace SwapArchive

open Text (cutAt splitAt)

/-- How the address of a scheme is read. -/
inductive SchemeKind where
  /-- A scheme of the network, with the socket that is asked if none is named. -/
  | network (socket : Nat)
  | file
  | other
  deriving DecidableEq, Repr

namespace SchemeKind

/-- The schemes of the network and their sockets. -/
def sockets : List (String × Nat) :=
  [("http", 80), ("https", 443), ("ws", 80), ("wss", 443), ("ftp", 21)]

def ofScheme (scheme : List Char) : SchemeKind :=
  let name := String.ofList scheme
  if name == "file" then file
  else match sockets.lookup name with
    | some socket => network socket
    | none => other

def isKnown : SchemeKind → Bool
  | other => false
  | _ => true

/-- Whether a character divides a path. With a known scheme, a backslash does so too. -/
def isSlash (kind : SchemeKind) (c : Char) : Bool := c == '/' || (kind.isKnown && c == '\\')

end SchemeKind

/-- A text without the blanks and control characters around it, and without tabulators and ends of
lines inside. -/
def stripAddress (cs : List Char) : List Char :=
  let isEdge (c : Char) : Bool := c.toNat ≤ 0x20
  ((cs.dropWhile isEdge).reverse.dropWhile isEdge).reverse.filter
    fun c => c != '\t' && c != '\n' && c != '\r'

/-- Whether a character can be part of a scheme. -/
def isSchemeChar (c : Char) : Bool := c.isAlphanum || c == '+' || c == '-' || c == '.'

/-- The scheme, in lower case, and what comes after the colon behind it. -/
def readScheme? (cs : List Char) : Option (List Char × List Char) :=
  match cs.dropWhile isSchemeChar with
  | ':' :: rest =>
    if (cs.head?.map Char.isAlpha).getD false then
      some (Text.foldChars (cs.takeWhile isSchemeChar), rest)
    else none
  | _ => none

def greatestSocket : Nat := 65535

/-- The number of a socket, if there are digits. -/
def readSocket? (digits : List Char) : Option (Option Nat) :=
  let number := digits.foldl (fun n c => n * 10 + (c.toNat - 48)) 0
  if greatestSocket < number then none
  else some (if digits.isEmpty then none else some number)

/-- How many characters a host has. A colon ends it, but not between brackets. -/
def hostLength : (bracketed : Bool) → List Char → Nat
  | _, [] => 0
  | bracketed, c :: cs =>
    if c == ':' && !bracketed then 0
    else hostLength (if c == '[' then true else if c == ']' then false else bracketed) cs + 1

/-- User and password of a text. A password that is empty is none. -/
def readUser (cs : List Char) : List Char × Option (List Char) :=
  let (user, password) := cutAt (· == ':') cs
  (AddressPart.user.encode user,
    (password.filter (!·.isEmpty)).map AddressPart.user.encode)

/-- The host and the socket of a text, and the rest of it, which can only be a path that starts with
a backslash. -/
def readHost? (kind : SchemeKind) (cs : List Char) : Option (Host × Option Nat × List Char) := do
  let length := hostLength false cs
  let host ← (if kind.isKnown then Host.ofText? else Host.ofPlainText?) (cs.take length)
  match cs.drop length with
  | [] => some (host, none, [])
  -- The first character of these is the colon.
  | _ :: behind =>
    let socket ← readSocket? (behind.takeWhile Char.isDigit)
    let rest := behind.dropWhile Char.isDigit
    if host.isEmpty || !(rest.isEmpty || rest.head? == some '\\') then none
    else some (host, socket, rest)

/-- **Authority**, and the part of the text that belongs to the path. A user is nobody without a
host, and the socket that is asked anyway is not named. -/
def readAuthority? (kind : SchemeKind) (cs : List Char) : Option (Authority × List Char) := do
  -- A user may have at signs in it, so the last one ends it.
  let behindUser := (cs.reverse.takeWhile (· != '@')).reverse
  let (user, password) := readUser ((cs.take (cs.length - behindUser.length)).dropLast)
  let (host, socket, rest) ← readHost? kind behindUser
  let isNobody := user.isEmpty && password.isNone
  if host.isEmpty && !isNobody then none
  else
    let usual := match kind with
      | .network socket => some socket
      | _ => none
    some (⟨user, password, host, if socket == usual then none else socket⟩, rest)

/-- Whether a segment stands for the directory it is in. -/
def isSameDirectory (segment : List Char) : Bool :=
  [".", "%2e"].contains (String.ofList (Text.foldChars segment))

/-- Whether a segment stands for the directory above. -/
def isDirectoryAbove (segment : List Char) : Bool :=
  ["..", ".%2e", "%2e.", "%2e%2e"].contains (String.ofList (Text.foldChars segment))

/-- Whether a segment is the letter of a drive. -/
def isDrive : List Char → Bool
  | [letter, sign] => letter.isAlpha && (sign == ':' || sign == '|')
  | _ => false

/-- Segments without the last one. The letter of a drive stays. -/
def leaveDirectory (names : List (List Char)) : List (List Char) :=
  if (names.getLast?.map isDrive).getD false then names else names.dropLast

/-- A segment as it is added to others. The letter of a drive is written with a colon. -/
def writeSegment (kind : SchemeKind) (names : List (List Char)) (segment : List Char) : List Char :=
  if kind == .file && names.isEmpty && isDrive segment then segment.take 1 ++ [':']
  else AddressPart.path.encode segment

/-- **Segments**, resolved: those that stand for directories lead there. -/
def readSegments (kind : SchemeKind) : (names : List (List Char)) → List (List Char) →
    List (List Char)
  | names, [] => names
  | names, segment :: rest =>
    -- A directory at the end of a path keeps the slash behind it.
    let isFinal := rest.isEmpty
    let names :=
      if isDirectoryAbove segment then
        leaveDirectory names ++ (if isFinal then [[]] else [])
      else if isSameDirectory segment then names ++ (if isFinal then [[]] else [])
      else names ++ [writeSegment kind names segment]
    readSegments kind names rest

/-- A text without a slash at its start. -/
def dropSlash (kind : SchemeKind) (cs : List Char) : List Char :=
  if (cs.head?.map kind.isSlash).getD false then cs.tail else cs

/-- The path of a text. A slash at its start is not counted. -/
def readPath (kind : SchemeKind) (cs : List Char) : UrlPath :=
  .segments (readSegments kind [] (splitAt kind.isSlash (dropSlash kind cs)))

/-- The address of a scheme of the network: slashes, the authority and a path. -/
def readNetwork? (kind : SchemeKind) (cs : List Char) : Option (Option Authority × UrlPath) := do
  let behindSlashes := cs.dropWhile kind.isSlash
  let (authority, _) ← readAuthority? kind (behindSlashes.takeWhile (!kind.isSlash ·))
  some (authority, readPath kind (behindSlashes.dropWhile (!kind.isSlash ·)))

/-- The address of a scheme that is not known: an authority behind two slashes, a path behind one,
and a path that is not divided behind none. -/
def readOther? : List Char → Option (Option Authority × UrlPath)
  | '/' :: '/' :: cs => do
    let (authority, rest) ← readAuthority? .other (cs.takeWhile (· != '/'))
    let path := rest ++ cs.dropWhile (· != '/')
    some (authority, if path.isEmpty then .segments [] else readPath .other path)
  | '/' :: cs => some (none, readPath .other cs)
  | cs => some (none, .flat (AddressPart.plain.encode cs))

/-- The only machine whose files can be named without its name. -/
def ownMachine : List Char := "localhost".toList

/-- A path of files: there are no empty segments at its start. -/
def dropEmptyStart : List (List Char) → List (List Char)
  | [] :: segment :: rest => dropEmptyStart (segment :: rest)
  | names => names

/-- The host of files that is named in a text. -/
def readMachine? (name : List Char) : Option Host := do
  let host ← if name.isEmpty || isDrive name then some (.named []) else Host.ofText? name
  some (if host == .named ownMachine then .named [] else host)

/-- The host and the path in the address of a file. A host stands behind two slashes, unless the
letter of a drive stands there. -/
def readMachineAndPath? (cs : List Char) : Option (Host × List Char) :=
  let kind := SchemeKind.file
  if (cs.takeWhile kind.isSlash).length < 2 then some (.named [], dropSlash kind cs)
  else do
    let rest := cs.drop 2
    let name := rest.takeWhile (!kind.isSlash ·)
    let host ← readMachine? name
    let path := if isDrive name then rest else rest.dropWhile (!kind.isSlash ·)
    some (host, if host.isEmpty then path else dropSlash kind path)

/-- The address of a file. A path that starts with the letter of a drive is one of the own
machine. -/
def readFile? (cs : List Char) : Option (Option Authority × UrlPath) := do
  let (host, path) ← readMachineAndPath? cs
  let parts := splitAt SchemeKind.file.isSlash path
  let host := if (parts.head?.map isDrive).getD false then .named [] else host
  some (some { host }, .segments (dropEmptyStart (readSegments .file [] parts)))

/-- **Address** of a text. -/
def Url.ofText? (s : String) : Option Url := do
  let (scheme, rest) ← readScheme? (stripAddress s.toList)
  let kind := SchemeKind.ofScheme scheme
  -- The fragment is cut off first: a question mark in it starts no query.
  let (rest, fragment) := cutAt (· == '#') rest
  let (rest, query) := cutAt (· == '?') rest
  let queryPart := if kind.isKnown then AddressPart.knownQuery else .otherQuery
  let (authority, path) ←
    match kind with
    | .network _ => readNetwork? kind rest
    | .file => readFile? rest
    | .other => readOther? rest
  some ⟨scheme, authority, path, query.map queryPart.encode,
    fragment.map AddressPart.fragment.encode⟩

end SwapArchive
