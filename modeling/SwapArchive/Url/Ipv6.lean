import SwapArchive.Text.Hex
import SwapArchive.Text.Split

/-!
# Addresses of sixteen bytes

A host can be given by eight numbers below 2¹⁶, in hexadecimal between colons. Two colons together
stand for as many zeros as are missing, and the last two numbers may be written as four decimal
bytes between full stops.
-/

namespace SwapArchive

/-- An address of sixteen bytes, as eight numbers. -/
structure Ipv6 where
  groups : List Nat
  deriving DecidableEq, Repr

namespace Ipv6

def groupCount : Nat := 8

/-- How many zeros are found from a place on. -/
def zerosFrom (groups : List Nat) (place : Nat) : Nat :=
  ((groups.drop place).takeWhile (· == 0)).length

/-- The place where the longest run of zeros starts, the first one if there are several. -/
def longestZeros (groups : List Nat) : Nat :=
  (List.range groups.length).foldl (fun best place =>
    if zerosFrom groups best < zerosFrom groups place then place else best) 0

/-- Numbers in hexadecimal between colons. -/
def join (groups : List Nat) : String :=
  ":".intercalate (groups.map fun n => String.ofList (Text.hexDigits n))

/-- **Shown form**: the longest run of zeros is left out if there are at least two of them. -/
def text (a : Ipv6) : List Char :=
  let place := longestZeros a.groups
  let zeros := zerosFrom a.groups place
  (if zeros < 2 then join a.groups
  else join (a.groups.take place) ++ "::" ++ join (a.groups.drop (place + zeros))).toList

/-- The number of one to four hexadecimal digits. -/
def group? (cs : List Char) : Option Nat :=
  if cs.isEmpty || 4 < cs.length then none
  else cs.foldlM (fun n c => (Text.hexValue? c).map (n * 16 + ·)) 0

/-- The number of a byte in decimal digits, without a zero in front. -/
def byte? (cs : List Char) : Option Nat :=
  let number := cs.foldl (fun n c => n * 10 + (c.toNat - 48)) 0
  if cs.isEmpty || !cs.all Char.isDigit || (cs.head? == some '0' && cs.length != 1) || 255 < number
  then none
  else some number

/-- The two groups of four bytes between full stops. -/
def dotted? (cs : List Char) : Option (List Nat) := do
  match ← (Text.splitAt (· == '.') cs).mapM byte? with
  | [a, b, c, d] => some [a * 256 + b, c * 256 + d]
  | _ => none

/-- The groups of parts between colons. The last part may have four bytes. -/
def groups? : List (List Char) → Option (List Nat)
  | [] => some []
  | [part] => if part.contains '.' then dotted? part else (group? part).map ([·])
  | part :: parts => do return (← group? part) :: (← groups? parts)

/-- The groups of a text, which may be empty. -/
def groupsOf? (cs : List Char) : Option (List Nat) :=
  if cs.isEmpty then some [] else groups? (Text.splitAt (· == ':') cs)

/-- A text before and behind the first two colons that stand together, if there are any. -/
def cutColons : List Char → List Char × Option (List Char)
  | ':' :: ':' :: rest => ([], some rest)
  | c :: rest =>
    let (before, behind) := cutColons rest
    (c :: before, behind)
  | [] => ([], none)

/-- **Address** of a text. Two colons stand for one zero at least, and four bytes can stand at the
very end only. -/
def ofText? (cs : List Char) : Option Ipv6 := do
  match cutColons cs with
  | (all, none) =>
    let groups ← groupsOf? all
    if groups.length = groupCount then some ⟨groups⟩ else none
  | (before, some behind) =>
    if before.contains '.' then none
    else
      let front ← groupsOf? before
      let back ← groupsOf? behind
      if front.length + back.length < groupCount then
        some ⟨front ++ List.replicate (groupCount - front.length - back.length) 0 ++ back⟩
      else none

end Ipv6
end SwapArchive
