/-!
# Styled texts

Some parts of a text are shown in bold letters or underlined. A terminal is told so by control
sequences around them.
-/

namespace SwapArchive.Text

/-- A part of a text, with its style. -/
structure Span where
  text : String
  isBold : Bool := false
  isUnderlined : Bool := false
  deriving DecidableEq, Repr

def bold (s : String) : Span := { text := s, isBold := true }

/-- A part in bold letters, underlined. -/
def underlined (s : String) : Span := { text := s, isBold := true, isUnderlined := true }

def plain (s : String) : Span := { text := s }

/-- The control sequence with a number for a style. -/
def styleSequence (number : String) : String := "\x1B[" ++ number ++ "m"

/-- The text of a part, with control sequences around it if it has a style. -/
def Span.controlled (s : Span) : String :=
  let starts := (if s.isBold then styleSequence "1" else "")
    ++ (if s.isUnderlined then styleSequence "4" else "")
  if starts.isEmpty then s.text else starts ++ s.text ++ styleSequence "0"

/-- A text of parts. -/
abbrev Styled := List Span

namespace Styled

def width (s : Styled) : Nat := (s.map (·.text.length)).foldl (· + ·) 0

def text (s : Styled) : String := String.join (s.map Span.controlled)

end Styled
end SwapArchive.Text
