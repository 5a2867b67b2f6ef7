import SwapArchive.Source.Proxy

/-!
# Where a query leads

A client asks the endpoint at an address. Only addresses of two schemes can be asked at all, and a
client reaches the endpoint of its own machine only. A proxy on that machine leads every query to
the endpoint.
-/

namespace SwapArchive

/-- What becomes of a query. The address is shown without its user. -/
inductive Target where
  /-- The text is no address. -/
  | unreadable
  /-- Nothing can be sent to the address. -/
  | unsendable (shown : String)
  /-- Nobody is there. -/
  | unreachable (shown : String)
  /-- The endpoint receives the query. -/
  | endpoint (shown : String)
  deriving DecidableEq, Repr

namespace Target

/-- The scheme in which the endpoint is asked. -/
def plainScheme : List Char := "http".toList

/-- The schemes of addresses that can be asked. -/
def schemes : List (List Char) := [plainScheme, "https".toList]

/-- The most bytes that an address can have. -/
def greatestLength : Nat := 65534

/-- The signs that can be part of the name of a host, but not of one that is asked. -/
def unsendableSigns : List Char := "\"\x60\x7b\x7d".toList

/-- Whether something can be sent to an address. -/
def canBeSent (u : Url) : Bool :=
  match u.host? with
  | none => false
  | some host =>
    schemes.contains u.scheme && !host.text.any unsendableSigns.contains
      && u.withoutUser.text.length ≤ greatestLength

/-- The host of the own machine, and its name. -/
def ownHosts : List Host := [.four ⟨0x7F000001⟩, .named ownMachine]

/-- Whether an address is one of the own machine. -/
def isOwn (u : Url) : Bool :=
  u.scheme == plainScheme && (u.host?.map ownHosts.contains).getD false

/-- Whether a query to an address reaches the endpoint, directly or by a proxy. -/
def isReached (proxies : Proxies) (u : Url) : Bool :=
  u.scheme == plainScheme && isOwn ((u.host?.bind proxies.proxyFor?).getD u)

/-- **Target** of an address. -/
def ofText (proxies : Proxies) (address : String) : Target :=
  match Url.ofText? address with
  | none => unreadable
  | some u =>
    let shown := String.ofList u.withoutUser.text
    if !canBeSent u then unsendable shown
    else if isReached proxies u then endpoint shown
    else unreachable shown

end Target
end SwapArchive
