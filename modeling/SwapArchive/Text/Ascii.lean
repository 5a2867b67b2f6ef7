/-!
# Comparison without regard to case

Token addresses are hexadecimal, and their letters carry no meaning by their case. Only the 26
letters of ASCII are folded; every other character is equal to itself alone.
-/

namespace SwapArchive.Text

/-- ASCII letters in lower case, everything else as it is. -/
def foldChars (cs : List Char) : List Char := cs.map Char.toLower

/-- **Equality but for case**: two texts that differ at most in the case of ASCII letters. -/
def sameIgnoringCase (a b : String) : Bool := foldChars a.toList == foldChars b.toList

end SwapArchive.Text
