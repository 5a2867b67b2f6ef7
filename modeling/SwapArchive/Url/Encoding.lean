import SwapArchive.Text.Percent

/-!
# What is encoded in an address

Control characters and characters beyond ASCII are encoded everywhere. Which signs are encoded
besides depends on the part of the address they stand in.
-/

namespace SwapArchive

/-- What cannot stand in any part of an address as it is. -/
def isUnwritable (c : Char) : Bool := c.toNat < 0x20 || 0x7F ≤ c.toNat

inductive AddressPart where
  /-- The name or the password of a user. -/
  | user
  /-- A path of segments. -/
  | path
  /-- A query to a scheme that is known, and to one that is not. -/
  | knownQuery
  | otherQuery
  | fragment
  /-- What is encoded as little as possible. -/
  | plain
  deriving DecidableEq, Repr

namespace AddressPart

/-- The signs that are encoded in a part. -/
def signs : AddressPart → List Char
  | user => " \"#<>?\x60\x7b\x7d/:;=@[\\]^|".toList
  | path => " \"#<>?\x60\x7b\x7d".toList
  | knownQuery => " \"#<>'".toList
  | otherQuery => " \"#<>".toList
  | fragment => " \"<>\x60".toList
  | plain => []

/-- **Encoded form** of a text in a part. -/
def encode (part : AddressPart) (cs : List Char) : List Char :=
  Text.percentEncode (fun c => isUnwritable c || part.signs.contains c) cs

end AddressPart
end SwapArchive
