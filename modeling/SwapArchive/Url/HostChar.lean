import SwapArchive.Text.Joining
import SwapArchive.Text.LowerCase
import SwapArchive.Text.NormalForm
import SwapArchive.Text.Unprintable
import SwapArchive.Text.Variant

/-!
# Characters in the names of hosts

The name of a host may be written with many characters that mean the same: capital letters, wide
and styled forms of letters and digits, ligatures. They all stand for the same plain ones. Some
characters stand for nothing, and others have no place in a name.
-/

namespace SwapArchive

open Text (liesIn rangesOf)

/-- The code points of the characters that stand for nothing. -/
def droppedRanges : List (Nat × Nat) :=
  rangesOf [
    "AD 34F 115F-1160 17B4-17B5 180B-180F 200B 2060-2064 206A-206F 3164 FE00-FE0F FEFF FFA0",
    "1BCA0-1BCA3 1D173-1D17A E0100-E01EF"
  ]

/-- Whether a character in a name stands for nothing. -/
def isDropped (c : Char) : Bool := liesIn droppedRanges c

/-- The code points of printable characters that have no place in a name: those that would stand for
a space or for a sign with a meaning of its own, and those that describe or replace characters. -/
def misleadingRanges : List (Nat × Nat) :=
  rangesOf [
    "A8 AF B4 B8 2D8-2DD 37A 384-385 1FBD 1FBF-1FC1 1FCD-1FCF 1FDD-1FDF 1FED-1FEE 1FFD-1FFE 2017",
    "2024-2026 203E 2047-2049 2100-2101 2105-2106 2488-249B 2A74 2FF0-2FFF 309B-309C 31EF 33C2",
    "33C7 33D8 FC5E-FC63 FDFA-FDFB FE12-FE13 FE16 FE19 FE30 FE47-FE4C FE52 FE55-FE56 FE5F FE68",
    "FE6A-FE70 FE72 FE74-FE76 FE78 FE7A FE7C FE7E FF03 FF05 FF0F FF1A FF1F-FF20 FF3B-FF3E FF5C",
    "FFE3 FFFC-FFFD 1F100"
  ]

/-- **Forbidden characters** beyond ASCII: misleading ones, and whatever cannot be seen, but for
marks and for the characters that join letters or keep them apart. -/
def isForbidden (c : Char) : Bool :=
  liesIn misleadingRanges c
    || (Text.isUnprintable c && !Text.isMark c && !Text.isJoiner c && !Text.isSeparator c)

/-- The capital letters of the script that had no other letters for long. They stand for
themselves. -/
def settledCapitals : List (Nat × Nat) := rangesOf ["13A0-13F5"]

/-- **Meaning** of a character in the name of a host: nothing, what it is a variant of, or its
lower-case form, unless it is forbidden. -/
def hostChars? (c : Char) : Option (List Char) :=
  if c.toNat < 0x80 then some [c.toLower]
  else if isDropped c then some []
  else
    match Text.variantForm? c with
    | some form => some form
    | none =>
      if isForbidden c then none
      else if liesIn settledCapitals c then some [c]
      else some (Text.lowerChar c)

/-- **Meaning of a text** in the name of a host, in normal form. -/
def hostText? (cs : List Char) : Option (List Char) :=
  (cs.mapM hostChars?).map fun forms => Text.normalForm forms.flatten

/-- The signs that have a meaning of their own in an address. -/
def addressSigns : List Char := "%#/:<>?@[\\]^|".toList

/-- Whether a character is a sign or a blank of ASCII that has no place in a name. It may be part
of a composite. -/
def isHostSign (c : Char) : Bool :=
  c.toNat ≤ 0x20 || c.toNat == 0x7F || addressSigns.contains c

end SwapArchive
