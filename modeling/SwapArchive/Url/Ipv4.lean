import SwapArchive.Text.Hex

/-!
# Addresses of four bytes

A host can be given by a number below 2³². It is shown as four numbers below 256 between full
stops. It may be written with fewer numbers, of which the last one then covers several bytes, and
each of them may be decimal, octal behind a zero, or hexadecimal behind a zero and an x.
-/

namespace SwapArchive

/-- An address of four bytes, as one number. -/
structure Ipv4 where
  number : Nat
  deriving DecidableEq, Repr

namespace Ipv4

/-- Four numbers between full stops. -/
def text (a : Ipv4) : List Char :=
  let bytes := [16777216, 65536, 256, 1].map fun weight => a.number / weight % 256
  (".".intercalate (bytes.map toString)).toList

def numberIn? (base : Nat) (digits : List Char) : Option Nat :=
  digits.foldlM (fun n c => do
    let d ← Text.hexValue? c
    if d < base then some (n * base + d) else none) 0

/-- The number of a label. Nothing behind the x stands for zero. -/
def numberOf? : List Char → Option Nat
  | [] => none
  | '0' :: 'x' :: digits => numberIn? 16 digits
  | '0' :: c :: digits => numberIn? 8 (c :: digits)
  | digits => numberIn? 10 digits

/-- Labels without an empty one at the end. -/
def dropEmptyEnd (labels : List (List Char)) : List (List Char) :=
  if labels.getLast? == some [] then labels.dropLast else labels

/-- Whether the last label is a number, or has decimal digits only. -/
def endsInNumber (labels : List (List Char)) : Bool :=
  let final := (dropEmptyEnd labels).getLast?.getD []
  (!final.isEmpty && final.all Char.isDigit) || (numberOf? final).isSome

/-- **Address** that labels stand for: one byte for each but the last, which covers the others. -/
def ofLabels? (labels : List (List Char)) : Option Ipv4 := do
  let labels := dropEmptyEnd labels
  let numbers ← labels.mapM numberOf?
  let final ← numbers.getLast?
  let bytes := numbers.dropLast
  if 3 < bytes.length || bytes.any (255 < ·) || Nat.pow 256 (4 - bytes.length) ≤ final then none
  else
    let high := bytes.foldl (fun n byte => n * 256 + byte) 0
    some ⟨high * Nat.pow 256 (4 - bytes.length) + final⟩

end Ipv4
end SwapArchive
