import SwapArchive.Text.Hex
import SwapArchive.Text.Utf8

/-!
# Percent encoding

In an address, a character that would have a meaning of its own is written as its bytes, each of
them a percent sign and two hexadecimal digits.
-/

namespace SwapArchive.Text

def percentByte (b : UInt8) : List Char :=
  ['%', (hexDigit (b.toNat / 16)).toUpper, (hexDigit (b.toNat % 16)).toUpper]

/-- **Encoding**: the characters of a set are written by their bytes, all others as they are. -/
def percentEncode (reserved : Char → Bool) (cs : List Char) : List Char :=
  cs.flatMap fun c => if reserved c then (encodeChar c).flatMap percentByte else [c]

def hexByte? (a b : Char) : Option UInt8 := do
  let high ← hexValue? a
  let low ← hexValue? b
  return UInt8.ofNat (high * 16 + low)

/-- **Decoding**: a percent sign before two hexadecimal digits stands for their byte, every other
character for its own bytes. -/
def percentDecode : List Char → List UInt8
  | '%' :: a :: b :: rest =>
    match hexByte? a b with
    | some byte => byte :: percentDecode rest
    | none => encodeChar '%' ++ percentDecode (a :: b :: rest)
  | c :: rest => encodeChar c ++ percentDecode rest
  | [] => []

end SwapArchive.Text
