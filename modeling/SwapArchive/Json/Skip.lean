import SwapArchive.Json.Text
import SwapArchive.Json.Number

/-!
# Passing over values

A field that nobody asked for may hold anything, nested as deep as it likes, but has to be well
formed. Its value is passed over with the containers still open kept on a stack, so no nesting is
too deep for it.
-/

namespace SwapArchive.Json

inductive Container where
  | list
  | object
  deriving DecidableEq

namespace Container

def closing : Container → Char
  | list => ']'
  | object => '\x7d'

/-- The error of a document that ends inside. -/
def atEnd : Container → Cause
  | list => .endInList
  | object => .endInObject

/-- The error where an item is followed by neither a comma nor the end. -/
def afterItem : Container → Cause
  | list => .expectedCommaInList
  | object => .expectedCommaInObject

end Container

def skipKey (limits : Limits) : Reader Unit := do
  match ← peekToken with
  | some '"' => skipText limits
  | some _ => stopAtNext .keyNotText
  | none => stopAtNext .endInObject
  match ← peekToken with
  | some ':' => skip
  | some _ => stopAtNext .expectedColon
  | none => stopAtNext .endInObject

/-- Closes containers until an item has to follow, and returns those that are then still open. A
comma may come first unless the innermost container has just been opened. -/
def closeContainers (limits : Limits) :
    (opened : List Container) → (afterValue : Bool) → Reader (List Container)
  | [], _ => return []
  | top :: rest, afterValue => do
    let item : Reader (List Container) := do
      if top = .object then skipKey limits
      return top :: rest
    match ← peekToken with
    | none => stopAtNext top.atEnd
    | some c =>
      -- Only behind a value is there something for a comma to divide.
      if c = ',' ∧ afterValue then
        skip
        item
      else if c = top.closing then
        skip
        closeContainers limits rest true
      else if afterValue then stopAtNext top.afterItem
      else item

/-- Passes over the values that the open containers still want, `items` of them at most. -/
def skipValues (limits : Limits) : (items : Nat) → (opened : List Container) → Reader Unit
  | 0, _ => stop .endInValue
  | items + 1, opened => do
    let proceed (opened : List Container) (afterValue : Bool) : Reader Unit := do
      match ← closeContainers limits opened afterValue with
      | [] => return ()
      | opened => skipValues limits items opened
    match ← peekToken with
    | none => stopAtNext .endInValue
    | some '[' =>
      skip
      proceed (.list :: opened) false
    | some '\x7b' =>
      skip
      proceed (.object :: opened) false
    | some c =>
      match c with
      | 'n' => skip; readWord ['u', 'l', 'l']
      | 't' => skip; readWord ['r', 'u', 'e']
      | 'f' => skip; readWord ['a', 'l', 's', 'e']
      | '"' => skipText limits
      | '-' => skip; skipNumber
      | _ => if c.isDigit then skipNumber else stopAtNext .expectedValue
      proceed opened true

/-- **Passing over**: reads one well-formed value and forgets it. -/
def skipValue (limits : Limits) : Reader Unit := skipValues limits limits.items []

end SwapArchive.Json
