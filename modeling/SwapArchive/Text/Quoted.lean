import SwapArchive.Text.Hex
import SwapArchive.Text.Unprintable

/-!
# Quoted text

A text inside a message stands between quotation marks. The marks themselves, the backslash and
the common control characters are written with a backslash, and every other character that cannot
be seen is written by its number.
-/

namespace SwapArchive.Text

def quoteChar (c : Char) : List Char :=
  match c with
  | '"' => ['\\', '"']
  | '\\' => ['\\', '\\']
  | '\t' => ['\\', 't']
  | '\r' => ['\\', 'r']
  | '\n' => ['\\', 'n']
  | _ =>
    if c.toNat == 0 then ['\\', '0']
    else if isUnprintable c then ['\\', 'u', '\x7b'] ++ hexDigits c.toNat ++ ['\x7d']
    else [c]

/-- **Quoted text**: the quoted forms of the characters between two quotation marks. -/
def quote (s : String) : String :=
  String.ofList ('"' :: s.toList.flatMap quoteChar ++ ['"'])

end SwapArchive.Text
