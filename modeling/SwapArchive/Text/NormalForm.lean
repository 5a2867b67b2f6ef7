import SwapArchive.Text.CombiningClass
import SwapArchive.Text.Composite

/-!
# Normal form

The same text can be written with composites or with their parts, and marks that go to different
places of a letter in any order. In the normal form, marks stand in the order of their classes and
everything that can be composed is. Characters that mean the same as one other character have to be
replaced before.
-/

namespace SwapArchive.Text

/-- Puts a character in front of a text, but a mark behind marks of lower classes. -/
def insertMark (c : Char) : List Char → List Char
  | [] => [c]
  | d :: rest =>
    if combiningClass d ≠ 0 ∧ combiningClass d < combiningClass c then d :: insertMark c rest
    else c :: d :: rest

/-- **Marks in order** of their classes; those of one class keep their order. -/
def ordered : List Char → List Char
  | [] => []
  | c :: rest => insertMark c (ordered rest)

/-- Whether a character is kept away from a letter by the marks between them: a mark by one of its
own class or a higher one, any other character by every mark. -/
def isKeptAway (between : List Char) (c : Char) : Bool :=
  (between.getLast?.map fun d => decide (combiningClass c ≤ combiningClass d)).getD false

/-- Composes a letter with what follows it. Marks that are not composed stay behind the letter. -/
def recomposeFrom (letter : Char) (marks : List Char) : List Char → List Char
  | [] => letter :: marks
  | c :: rest =>
    match if isKeptAway marks c then none else compose? letter c with
    | some composite => recomposeFrom composite marks rest
    | none =>
      -- A character of class zero starts the next letter, and the marks so far stay here.
      if combiningClass c = 0 then letter :: marks ++ recomposeFrom c [] rest
      else recomposeFrom letter (marks ++ [c]) rest

/-- **Composites** in the place of their parts. -/
def recompose : List Char → List Char
  | [] => []
  | c :: rest => if combiningClass c = 0 then recomposeFrom c [] rest else c :: recompose rest

/-- **Normal form** of a text. -/
def normalForm (cs : List Char) : List Char := recompose (ordered (cs.flatMap decompose))

end SwapArchive.Text
