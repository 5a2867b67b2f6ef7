import SwapArchive.Failure
import SwapArchive.Swap.Json

/-!
# Pages from a remote source

A remote source answers a query with a JSON document that holds the swaps of a page, or messages
that say why there are none. A page is taken whole or not at all: one swap that is not valid
spoils it.
-/

namespace SwapArchive

open Json (Reader Limits Shape)

/-- The answer to a query: messages of errors, and the swaps if there are any. -/
structure Response where
  swaps : Option (List Swap)
  errors : List String
  deriving DecidableEq

/-- An error that a source reports: its message. -/
def errorShape : Shape (Option String) String where
  title := "GraphQlError"
  blank := none
  fields := [.of "message" true id (fun _ a => some a) Json.readString]
  build d := Json.needed "message" d

/-- The data of an answer: the swaps, which may be absent. -/
def dataShape : Shape (Option (Option (List Swap))) (Option (List Swap)) where
  title := "SwapsData"
  blank := none
  fields := [.of "swaps" true id (fun _ a => some a)
    (fun limits => Json.readOptional (Json.readList limits Swap.read))]
  build d := .ok (d.getD none)

/-- The fields of an answer read so far. -/
structure Response.Draft where
  data : Option (Option (Option (List Swap))) := none
  errors : Option (List String) := none

/-- An answer: data, which may be absent, and errors, of which there may be none. -/
def Response.shape : Shape Response.Draft Response where
  title := "Envelope"
  blank := {}
  fields := [
    .of "data" true (·.data) (fun d a => { d with data := some a })
      (fun limits => Json.readOptional (Json.readRecord dataShape limits)),
    .of "errors" false (·.errors) (fun d a => { d with errors := some a })
      (Json.readList · (Json.readRecord errorShape))]
  build d := .ok ⟨(d.data.getD none).getD none, d.errors.getD []⟩

def Response.read (limits : Limits) : Reader Response := Json.readRecord Response.shape limits

/-- Validates swaps one after the other, up to the first that fails. -/
def validateAll : List Swap → Outcome Unit
  | [] => .ok ()
  | s :: rest => do
    s.validate
    validateAll rest

/-- **Page of an answer**: reported errors come first, then the absence of swaps, then the first
swap that is not valid. -/
def Response.page (r : Response) : Outcome (List Swap) :=
  if !r.errors.isEmpty then
    .error (.malformedResponse ("query errors: " ++ String.intercalate "; " r.errors))
  else
    match r.swaps with
    | none => .error (.malformedResponse "response has no data.swaps")
    | some swaps =>
      match validateAll swaps with
      | .error f => .error f
      | .ok () => .ok swaps

/-- **Page of a body**: a body that is no answer at all is malformed too. -/
def readPage (body : List UInt8) : Outcome (List Swap) :=
  match Json.readDocument Response.read body with
  | .error e => .error (.malformedResponse ("invalid response body: " ++ e.message))
  | .ok r => r.page

end SwapArchive
