import SwapArchive.Text.Utf8

/-!
# Punycode

A text of any script written with the letters, digits and the hyphen of ASCII. The ASCII characters
of the text come first. Behind a hyphen, the others follow in the order of their code points, each
as a number: how many places and code points lie between it and the one before. A number is written
with 36 digits, the lowest digit first, and a threshold for every place tells which digits are the
last of a number. The thresholds follow a bias, which is adapted to the numbers written so far.
-/

namespace SwapArchive.Text.Punycode

/-- The number of digits. -/
def base : Nat := 36

/-- Numbers from here on are not read. -/
def wordLimit : Nat := 4294967296

def initialBias : Nat := 72

/-- The first code point that is not ASCII. -/
def firstCode : Nat := 0x80

/-- The digit of a value below 36: letters, then the decimal digits. -/
def digit (n : Nat) : Char :=
  if n < 26 then Char.ofNat ('a'.toNat + n) else Char.ofNat ('0'.toNat + (n - 26))

/-- The value of a digit of either case. -/
def digitValue? (c : Char) : Option Nat :=
  if c.isDigit then some (c.toNat - '0'.toNat + 26)
  else if c.isAlpha then some (c.toLower.toNat - 'a'.toNat)
  else none

/-- **Threshold**: digits below it are the last of a number. -/
def threshold (place bias : Nat) : Nat := max 1 (min 26 (place - bias))

theorem threshold_pos (place bias : Nat) : 0 < threshold place bias := by
  rw [threshold]; omega

/-- The bias for numbers of a size. -/
def biasOf (size : Nat) : Nat :=
  if 455 < size then base + biasOf (size / 35) else base * size / (size + 38)
termination_by size
decreasing_by omega

/-- **Adapted bias** after a number that put a character into a text, which has `count` characters
by then. -/
def adaptedBias (number count : Nat) (first : Bool) : Nat :=
  let size := if first then number / 700 else number / 2
  biasOf (size + size / count)

/-- A number that is added to `value`, and the text behind it. -/
def readNumber? (bias : Nat) :
    (place weight value : Nat) → List Char → Option (Nat × List Char)
  | _, _, _, [] => none
  | place, weight, value, c :: cs => do
    let d ← digitValue? c
    let next := value + d * weight
    if wordLimit ≤ next then none
    else if d < threshold place bias then some (next, cs)
    else readNumber? bias (place + base) (weight * (base - threshold place bias)) next cs

theorem readNumber?_length {bias place weight value : Nat} {cs : List Char}
    {read : Nat × List Char} (h : readNumber? bias place weight value cs = some read) :
    read.2.length < cs.length := by
  induction cs generalizing place weight value with
  | nil => simp [readNumber?] at h
  | cons c cs ih =>
    rw [readNumber?] at h
    cases hd : digitValue? c with
    | none => simp [hd] at h
    | some d =>
      simp only [hd, Option.bind_eq_bind, Option.bind_some] at h
      split at h
      · simp at h
      · split at h
        · obtain rfl := Option.some.inj h
          simp
        · exact Nat.lt_succ_of_lt (ih h)

/-- Puts characters into a text. The last one has the code point `code` and lies before `place`. -/
def decodeFrom? (bias code place : Nat) (letters : List Char) :
    List Char → Option (List Char)
  | [] => some letters
  | c :: cs =>
    match h : readNumber? bias base 1 place (c :: cs) with
    | none => none
    | some (number, rest) =>
      -- The number counts places and code points in one: each code point has `count` places.
      let count := letters.length + 1
      match charOf? 0 (code + number / count) with
      | none => none
      | some letter =>
        have : rest.length < (c :: cs).length := readNumber?_length h
        decodeFrom? (adaptedBias (number - place) count (place == 0)) (code + number / count)
          (number % count + 1) (letters.insertIdx (number % count) letter) rest
termination_by cs => cs.length
decreasing_by assumption

/-- The part of a text before its last hyphen, and the part behind it. A hyphen that is the first
character separates nothing. -/
def cutLastHyphen (cs : List Char) : List Char × List Char :=
  match cs.reverse.dropWhile (· != '-') with
  | _ :: c :: before => ((c :: before).reverse, (cs.reverse.takeWhile (· != '-')).reverse)
  | _ => ([], cs)

/-- **Text** that is written, if one is. -/
def decode? (cs : List Char) : Option (List Char) :=
  let (plain, numbers) := cutLastHyphen cs
  decodeFrom? initialBias firstCode 0 plain numbers

def writeNumber (bias place number : Nat) : List Char :=
  let t := threshold place bias
  if number < t then [digit number]
  else
    digit (t + (number - t) % (base - t))
      :: writeNumber bias (place + base) ((number - t) / (base - t))
termination_by number
decreasing_by
  have pos := threshold_pos place bias
  calc (number - threshold place bias) / (base - threshold place bias)
      ≤ number - threshold place bias := Nat.div_le_self _ _
    _ < number := by omega

/-- What has been written: the digits, the bias and the number that come next, and how many
characters have been written. -/
structure Written where
  digits : List Char
  bias : Nat
  number : Nat
  count : Nat

/-- Passes a character while the characters of the code point `code` are written. -/
def Written.pass (plainCount code : Nat) (w : Written) (c : Char) : Written :=
  -- Characters of lower code points are in the text already and take up places.
  if c.toNat < code then { w with number := w.number + 1 }
  else if c.toNat == code then
    { digits := w.digits ++ writeNumber w.bias base w.number
      bias := adaptedBias w.number (w.count + 1) (w.count == plainCount)
      number := 0
      count := w.count + 1 }
  else w

/-- Writes the characters of some code points, which are in ascending order and not below
`code`. -/
def Written.through (letters : List Char) (plainCount : Nat) :
    (code : Nat) → List Nat → Written → Written
  | _, [], w => w
  | code, next :: codes, w =>
    let w := { w with number := w.number + (next - code) * (w.count + 1) }
    let w := letters.foldl (Written.pass plainCount next) w
    Written.through letters plainCount (next + 1) codes { w with number := w.number + 1 }

/-- **Written form** of a text. -/
def encode (letters : List Char) : List Char :=
  let plain := letters.filter (·.toNat < firstCode)
  let codes := ((letters.filter (firstCode ≤ ·.toNat)).map Char.toNat).eraseDups.mergeSort
  let written := Written.through letters plain.length firstCode codes
    ⟨[], initialBias, 0, plain.length⟩
  plain ++ (if plain.isEmpty then [] else ['-']) ++ written.digits

end SwapArchive.Text.Punycode
