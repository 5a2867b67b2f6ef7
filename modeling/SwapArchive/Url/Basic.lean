import SwapArchive.Url.Host

/-!
# Addresses on the network

An address names a scheme, a host with perhaps a user and the number of a socket, a path, a query
and a fragment.
-/

namespace SwapArchive

/-- The part of an address that names the host. All texts are encoded. -/
structure Authority where
  user : List Char := []
  password : Option (List Char) := none
  host : Host
  socket : Option Nat := none
  deriving DecidableEq, Repr

/-- The path of an address, encoded. -/
inductive UrlPath where
  /-- Segments, each behind a slash. -/
  | segments (names : List (List Char))
  /-- A path that does not start with a slash and is not divided. -/
  | flat (text : List Char)
  deriving DecidableEq, Repr

/-- An address. All texts are encoded. -/
structure Url where
  scheme : List Char
  authority : Option Authority
  path : UrlPath
  query : Option (List Char)
  fragment : Option (List Char)
  deriving DecidableEq, Repr

namespace Authority

/-- The user and the password, with the sign that ends them. -/
def userText (a : Authority) : List Char :=
  let secret := match a.password with
    | some password => ':' :: password
    | none => []
  if a.user.isEmpty && a.password.isNone then [] else a.user ++ secret ++ ['@']

/-- User, host and socket behind two slashes. -/
def text (a : Authority) : List Char :=
  let socket := match a.socket with
    | some number => ':' :: (toString number).toList
    | none => []
  "//".toList ++ a.userText ++ a.host.text ++ socket

/-- Whether the bytes behind an encoded text are a text. -/
def isReadable (cs : List Char) : Bool := (Text.decode? (Text.percentDecode cs)).isSome

/-- An authority that does not tell its user, if the user can be told at all. -/
def withoutUser (a : Authority) : Authority :=
  if isReadable a.user && (!a.user.isEmpty || (a.password.map isReadable).getD false) then
    { a with user := [], password := none }
  else a

end Authority

def UrlPath.text : UrlPath → List Char
  | segments names => names.flatMap ('/' :: ·)
  | flat text => text

namespace Url

/-- What stands between the scheme and the path of an address that has no host. A path that starts
with two slashes would be taken for a host. -/
def pathMark : UrlPath → List Char
  | .segments ([] :: _ :: _) => "/.".toList
  | _ => []

/-- **Shown form** of an address. -/
def text (u : Url) : List Char :=
  let place := match u.authority with
    | some authority => authority.text
    | none => pathMark u.path
  let query := match u.query with
    | some query => '?' :: query
    | none => []
  let fragment := match u.fragment with
    | some fragment => '#' :: fragment
    | none => []
  u.scheme ++ [':'] ++ place ++ u.path.text ++ query ++ fragment

def host? (u : Url) : Option Host := (u.authority.map (·.host)).filter (!·.isEmpty)

def withoutUser (u : Url) : Url :=
  { u with authority := u.authority.map (·.withoutUser) }

end Url
end SwapArchive
