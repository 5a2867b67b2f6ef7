/-!
# Cutting texts
-/

namespace SwapArchive.Text

/-- A text before the first character of a kind, and what comes after that character, if there is
one. -/
def cutAt (mark : Char → Bool) (cs : List Char) : List Char × Option (List Char) :=
  (cs.takeWhile (!mark ·), (cs.dropWhile (!mark ·)).tail?)

/-- A text in which the first part is extended by a character. -/
def extendFirst (c : Char) : List (List Char) → List (List Char)
  | [] => [[c]]
  | part :: parts => (c :: part) :: parts

/-- **Parts** of a text between the characters of a kind. There is always one. -/
def splitAt (mark : Char → Bool) : List Char → List (List Char)
  | [] => [[]]
  | c :: cs => if mark c then [] :: splitAt mark cs else extendFirst c (splitAt mark cs)

theorem splitAt_ne_nil (mark : Char → Bool) (cs : List Char) : splitAt mark cs ≠ [] := by
  cases cs with
  | nil => simp [splitAt]
  | cons c cs =>
    rw [splitAt]
    split
    · simp
    · cases splitAt mark cs <;> simp [extendFirst]

end SwapArchive.Text
