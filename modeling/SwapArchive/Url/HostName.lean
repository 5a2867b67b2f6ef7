import SwapArchive.Text.Direction
import SwapArchive.Text.Percent
import SwapArchive.Text.Punycode
import SwapArchive.Text.Split
import SwapArchive.Url.HostChar

/-!
# Names of hosts

The name of a host consists of labels between full stops. A label may be written in any script. It
is shown in ASCII: a label with other characters is encoded, and a mark stands in front of it. A
label may also be given in the encoded form.
-/

namespace SwapArchive

open Text (Direction directionOf)

/-- Whether the characters of a label do not change the direction. A label of the one direction has
no letters of the other one, and it starts with a letter and ends in a letter or a digit, which
marks may follow. -/
def isDirected (letters : List Char) : Bool :=
  let directions := letters.map directionOf
  -- Marks at the end take the direction of what they stand on.
  let final := (directions.reverse.find? (· != .mark)).getD .neutral
  match directions with
  | [] => true
  | .leftToRight :: _ =>
    !directions.contains .rightToLeft && !directions.contains .arabic
      && [Direction.leftToRight, .european].contains final
  | .rightToLeft :: _ =>
    !directions.contains .leftToRight
      && [Direction.rightToLeft, .european, .arabic].contains final
      && !(directions.contains .european && directions.contains .arabic)
  | _ => false

/-- Whether a character makes a name one in which directions have to agree. -/
def needsDirection (c : Char) : Bool :=
  directionOf c == .rightToLeft || directionOf c == .arabic

/-- Whether a character of some kind comes first, marks left out of account. -/
def startsWith (isOf : Char → Bool) (cs : List Char) : Bool :=
  ((cs.dropWhile Text.isTransparent).head?.map isOf).getD false

/-- Whether every joiner and every separator stands behind a sign that takes the vowel from a
letter, or is a separator between two letters that would be joined. The characters before are given
from the last one on. -/
def joinersStand : (before : List Char) → List Char → Bool
  | _, [] => true
  | before, c :: rest =>
    let afterVirama := (before.head?.map Text.isVirama).getD false
    let stands :=
      if Text.isJoiner c then afterVirama
      else if Text.isSeparator c then
        afterVirama
          || (startsWith Text.joinsNext before && startsWith Text.joinsPrevious rest)
      else true
    stands && joinersStand (c :: before) rest

/-- A label as it is read, and as it is shown. -/
structure HostLabel where
  letters : List Char
  shown : List Char
  deriving DecidableEq, Repr

namespace HostLabel

/-- What stands in front of an encoded label. -/
def encodedMark : List Char := "xn--".toList

/-- The most letters of a label that is encoded to be shown. -/
def mostLetters : Nat := 1000

/-- The most characters that an encoded label has behind its mark. -/
def mostEncoded : Nat := 2000

/-- Whether letters need to be encoded in order to be shown. -/
def needsEncoding (letters : List Char) : Bool := letters.any (0x80 ≤ ·.toNat)

/-- Whether letters can be a label. -/
def isSound (letters : List Char) : Bool :=
  !letters.any isHostSign && !((letters.head?.map Text.isMark).getD false)
    && joinersStand [] letters
    && (!needsEncoding letters || letters.length ≤ mostLetters)

/-- The letters of an encoded label. Only letters that need to be encoded, and that stand for
themselves, can be given so. -/
def decode? (encoded : List Char) : Option (List Char) := do
  if mostEncoded < encoded.length || needsEncoding encoded then none
  else
    let letters ← Text.Punycode.decode? encoded
    if needsEncoding letters && hostText? letters == some letters then some letters else none

/-- **Label** of a text in which every character stands for itself. -/
def ofText? (cs : List Char) : Option HostLabel := do
  let label : HostLabel ←
    if encodedMark.isPrefixOf cs then
      (decode? (cs.drop encodedMark.length)).map (⟨·, cs⟩)
    else if needsEncoding cs then some ⟨cs, encodedMark ++ Text.Punycode.encode cs⟩
    else some ⟨cs, cs⟩
  if isSound label.letters then some label else none

end HostLabel

/-- **Name of a host**: the labels that a text stands for, after percent encoding is resolved. -/
def readHostName? (cs : List Char) : Option (List HostLabel) := do
  let text ← Text.decode? (Text.percentDecode cs)
  let plain ← hostText? text.toList
  let labels ← (Text.splitAt (· == '.') plain).mapM HostLabel.ofText?
  let directed := (labels.flatMap (·.letters)).any needsDirection
  if directed && !labels.all (isDirected ·.letters) then none else some labels

end SwapArchive
