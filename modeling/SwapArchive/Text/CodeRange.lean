import SwapArchive.Text.Hex
import SwapArchive.Text.Split

/-!
# Ranges of code points

A property that many characters have is written down as ranges of code points, in words between
spaces. Numbers are hexadecimal. A range is its first and its last code point with a hyphen between
them, or the only one.
-/

namespace SwapArchive.Text

/-- The words of a text, between spaces. -/
def wordsOf (s : String) : List (List Char) :=
  (splitAt (· == ' ') s.toList).filter (!·.isEmpty)

def readCode (cs : List Char) : Nat := cs.foldl (fun n c => n * 16 + (hexValue? c).getD 0) 0

def rangeOf (word : List Char) : Nat × Nat :=
  let (first, last) := cutAt (· == '-') word
  (readCode first, readCode (last.getD first))

/-- **Ranges** that the lines of a text write. -/
def rangesOf (lines : List String) : List (Nat × Nat) := (lines.flatMap wordsOf).map rangeOf

/-- Whether a character lies in one of some ranges. -/
def liesIn (ranges : List (Nat × Nat)) (c : Char) : Bool :=
  ranges.any fun (first, last) => first ≤ c.toNat && c.toNat ≤ last

end SwapArchive.Text
