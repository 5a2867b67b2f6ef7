import SwapArchive.Environment.Basic
import SwapArchive.Text.Ascii
import SwapArchive.Text.Blank
import SwapArchive.Url.Reading

/-!
# Proxies

A query may be sent to a proxy, which passes it on. The environment names the proxy, and the hosts
that are asked without it: names, which stand for the names below them too, and networks.
-/

namespace SwapArchive

/-- The addresses of four or sixteen bytes that have the leading bits of a number. -/
structure Network where
  bits : Nat
  number : Nat
  length : Nat
  deriving DecidableEq, Repr

namespace Network

/-- The number of bits of an address, and its number. A name has none. -/
def numberOf? : Host → Option (Nat × Nat)
  | .named _ => none
  | .four a => some (32, a.number)
  | .sixteen a => some (128, a.groups.foldl (fun n group => n * 65536 + group) 0)

/-- An address in its shown form, or one of sixteen bytes in any form. -/
def hostOf? (cs : List Char) : Option Host :=
  match Ipv4.ofLabels? (Text.splitAt (· == '.') cs) with
  | some a => if a.text == cs then some (.four a) else none
  | none => (Ipv6.ofText? cs).map .sixteen

/-- The number that decimal digits write. -/
def lengthOf? (digits : List Char) : Option Nat :=
  if digits.isEmpty then none else Ipv4.numberIn? 10 digits

/-- **Network** of a text: an address, with the number of its leading bits behind a slash if they
are not all the same in the network. -/
def ofText? (cs : List Char) : Option Network := do
  let (address, length) := Text.cutAt (· == '/') cs
  let (bits, number) ← numberOf? (← hostOf? address)
  match length with
  | none => some ⟨bits, number, bits⟩
  | some digits =>
    let length ← lengthOf? digits
    if length ≤ bits then some ⟨bits, number, length⟩ else none

/-- Whether a host is an address of a network. -/
def contains (network : Network) (host : Host) : Bool :=
  match numberOf? host with
  | none => false
  | some (bits, number) =>
    let rest := bits - network.length
    bits == network.bits && number.shiftRight rest == network.number.shiftRight rest

end Network

/-- Whether an entry stands for a name: the name itself, a name that it lies below, or an asterisk.
A full stop may stand in front of the entry. -/
def coversName (entry name : List Char) : Bool :=
  let entry := Text.foldChars entry
  let suffix := if entry.head? == some '.' then entry else '.' :: entry
  entry == ['*'] || entry == name || suffix == '.' :: name || suffix.isSuffixOf name

/-- The proxy for queries that are not encrypted, and the entries for hosts that are asked without
it. -/
structure Proxies where
  plain : Option Url := none
  exempt : List (List Char) := []
  deriving DecidableEq, Repr

namespace Proxies

def schemes : List (List Char) :=
  ["http", "https", "socks4", "socks4a", "socks5", "socks5h"].map String.toList

/-- The proxy that a value names. The scheme may be left out. -/
def proxyOf? (value : String) : Option Url := do
  let cs := value.toList
  if cs.head? == some '/' || cs.any fun c => c.toNat ≤ 0x20 || 0x7F ≤ c.toNat then none
  else
    let u ← Url.ofText? (if (value.splitOn "://").length = 1 then "http://" ++ value else value)
    if schemes.contains u.scheme && u.host?.isSome then some u else none

def firstValue (env : Environment) (names : List String) : String :=
  (names.findSome? env.value?).getD ""

/-- The variable that is set where variables may come from a request, and are not trusted. -/
def requestVariable : String := "REQUEST_METHOD"

/-- The variables for the proxy of queries that are not encrypted, for that of all queries, and for
the hosts that are asked directly. -/
def plainVariables : List String := ["HTTP_PROXY", "http_proxy"]

def generalVariables : List String := ["ALL_PROXY", "all_proxy"]

def exemptVariables : List String := ["NO_PROXY", "no_proxy"]

/-- The variables that have a meaning for proxies. -/
def variableNames : List String :=
  requestVariable :: plainVariables ++ generalVariables ++ exemptVariables

/-- **Proxies of an environment**. -/
def ofEnvironment (env : Environment) : Proxies :=
  -- A request could set the variables through its header.
  if (env.value? requestVariable).isSome then {}
  else
    let proxy? (names : List String) : Option Url := proxyOf? (firstValue env names)
    { plain := (proxy? plainVariables).or (proxy? generalVariables)
      exempt := Text.splitAt (· == ',') (firstValue env exemptVariables).toList }

def covers (entry : List Char) (host : Host) : Bool :=
  match host, Network.ofText? entry with
  | .named name, none => !entry.isEmpty && coversName entry name
  | .named _, some _ => false
  | _, some network => network.contains host
  | _, none => false

/-- **Proxy for a query** to a host, if it is not asked directly. -/
def proxyFor? (proxies : Proxies) (host : Host) : Option Url :=
  if proxies.exempt.any fun entry => covers (Text.trimChars entry) host then none
  else proxies.plain

end Proxies
end SwapArchive
