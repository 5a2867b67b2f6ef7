import SwapArchive.Url.Encoding
import SwapArchive.Url.HostName
import SwapArchive.Url.Ipv4
import SwapArchive.Url.Ipv6

/-!
# Hosts
-/

namespace SwapArchive

inductive Host where
  | named (name : List Char)
  | four (address : Ipv4)
  | sixteen (address : Ipv6)
  deriving DecidableEq, Repr

namespace Host

def text : Host → List Char
  | named name => name
  | four a => a.text
  | sixteen a => '[' :: a.text ++ [']']

def isEmpty (h : Host) : Bool := h.text.isEmpty

/-- The host between brackets, behind the first of which the text starts. -/
def ofBrackets? (cs : List Char) : Option Host :=
  if cs.getLast? == some ']' then (Ipv6.ofText? cs.dropLast).map sixteen else none

/-- **Host** of a known scheme: an address between brackets, an address if the name ends in a
number, and a name otherwise. -/
def ofText? : List Char → Option Host
  | '[' :: cs => ofBrackets? cs
  | cs => do
    let labels := (← readHostName? cs).map (·.shown)
    let name := ['.'].intercalate labels
    if name.isEmpty then none
    else if Ipv4.endsInNumber labels then (Ipv4.ofLabels? labels).map four
    else some (named name)

/-- The signs and blanks that cannot be part of an uninterpreted name. -/
def forbiddenSigns : List Char := "\x00\t\n\r #/:<>?@[\\]^|".toList

/-- The host of a scheme that is not known. -/
def ofPlainText? : List Char → Option Host
  | '[' :: cs => ofBrackets? cs
  | cs => if cs.any forbiddenSigns.contains then none else some (named (AddressPart.plain.encode cs))

end Host
end SwapArchive
