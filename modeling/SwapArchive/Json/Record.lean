import SwapArchive.Json.Decoder
import SwapArchive.Json.Skip

/-!
# Records

A record is written as an object with a member for each field, in any order, or as a list of the
fields in their own order. Members that belong to no field are passed over.

## Design notes

Some faults concern the record as a whole: a field given twice, one that is missing, a value that
is well formed but means nothing. Reading ends at such a fault, and it is reported at the place
where the record ends if that comes next.
-/

namespace SwapArchive.Json

/-- A field of a record whose values so far are a `σ`. -/
structure Field (σ : Type) where
  name : String
  /-- Whether the list form has to hold the field. -/
  required : Bool
  /-- Whether the field has been read. -/
  isGiven : σ → Bool
  /-- Reads the field. A value that means nothing leaves the fault to the record. -/
  read : Limits → σ → Reader (Except Cause σ)

/-- A field with a decoder of its own. -/
def Field.of (name : String) (required : Bool) (get : σ → Option α) (set : σ → α → σ)
    (decoder : Limits → Reader α) : Field σ where
  name := name
  required := required
  isGiven s := (get s).isSome
  read limits s := do return .ok (set s (← decoder limits))

/-- The fields of a record and the record that they make up. -/
structure Shape (σ α : Type) where
  title : String
  blank : σ
  fields : List (Field σ)
  build : σ → Except Cause α

/-- How a record is named where another value stands. -/
def Shape.described (shape : Shape σ α) : String := "struct " ++ shape.title

/-- How a record is named where its list form is too short. -/
def Shape.describedLength (shape : Shape σ α) : String :=
  let n := shape.fields.length
  s!"struct {shape.title} with {n} element" ++ (if n == 1 then "" else "s")

/-- The fields of an object, up to its end, which is left unread. -/
def readFields (limits : Limits) (fields : List (Field σ)) :
    (items : Nat) → (first : Bool) → (s : σ) → Reader (Except Cause σ)
  | 0, _, _ => stop .endInObject
  | items + 1, first, s => do
    if ← nextKey first then
      let key ← readText limits
      match fields.find? (·.name == key) with
      | none =>
        readColon
        skipValue limits
        readFields limits fields items false s
      | some field =>
        if field.isGiven s then return .error (.duplicateField field.name)
        else
          readColon
          match ← field.read limits s with
          | .error fault => return .error fault
          | .ok s => readFields limits fields items false s
    else return .ok s

/-- The fields of a list, in their order. `expected` names the record if the list is too short. -/
def readPositions (limits : Limits) (expected : String) :
    (fields : List (Field σ)) → (position : Nat) → (first : Bool) → (s : σ) →
    Reader (Except Cause σ)
  | [], _, _, s => return .ok s
  | field :: fields, position, first, s => do
    if ← nextItem first then
      match ← field.read limits s with
      | .error fault => return .error fault
      | .ok s => readPositions limits expected fields (position + 1) false s
    else if field.required then return .error (.invalidLength position expected)
    else readPositions limits expected fields (position + 1) first s

/-- Reads the end of an object, if it comes next. -/
def leaveObject : Reader Unit := do
  if (← peekToken) == some '\x7d' then skip

/-- Reads the end of a list, or else a comma, if one comes next. -/
def leaveList : Reader Unit := do
  match ← peekToken with
  | some ']' => skip
  | some ',' =>
    skip
    discard peekToken
  | _ => return ()

/-- **Record**: an object or a list of the fields of a shape. -/
def readRecord (shape : Shape σ α) (limits : Limits) : Reader α := do
  match ← peekToken with
  | none => stopAtNext .endInValue
  | some '\x7b' =>
    enter limits fun limits => do
      let result ← readFields limits shape.fields limits.items true shape.blank
      -- A fault is reported behind the object, if its end comes next.
      leaveObject
      match result >>= shape.build with
      | .ok a => return a
      | .error fault => stop fault
  | some '[' =>
    enter limits fun limits => do
      let result ← readPositions limits shape.describedLength shape.fields 0 true shape.blank
      match result >>= shape.build with
      | .ok a =>
        endList
        return a
      | .error fault =>
        leaveList
        stop fault
  | some _ => misfit limits shape.described

/-- A field that has to be there. -/
def needed (name : String) (value : Option α) : Except Cause α :=
  match value with
  | some a => .ok a
  | none => .error (.missingField name)

end SwapArchive.Json
