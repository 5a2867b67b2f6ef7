import SwapArchive.Failure

/-!
# Reports of failure

A command that fails says what it was about to do, then why it could not, from the nearest cause to
the farthest.
-/

namespace SwapArchive

/-- The failure in words, and what stands behind it: files and documents have failures of their
own. -/
def Failure.causes (f : Failure) : List String :=
  match f with
  | .io detail | .json detail => [f.message, detail]
  | _ => [f.message]

namespace CommandLine

inductive Trouble where
  /-- An operation failed. -/
  | failed (failure : Failure)
  /-- An operation failed, and it is known what it was for. -/
  | failedAt (purpose : String) (failure : Failure)
  /-- A run stopped before its end. -/
  | stopped (message : String)
  /-- A variable cannot take the value that the file of variables has for it. -/
  | unfitValue
  /-- The program ended in the middle of an operation. -/
  | crashed (crash : Crash)
  deriving DecidableEq, Repr

namespace Trouble

def ofHalt : Halt → Trouble
  | .failed failure => failed failure
  | .crashed crash => crashed crash

/-- What the command failed at, and the causes, nearest first. -/
def chain : Trouble → List String
  | failed failure => failure.causes
  | failedAt purpose failure => purpose :: failure.causes
  | stopped message => [message]
  | unfitValue => ["a value in the file of variables holds a NUL character"]
  | crashed crash => [crash.message]

/-- A text with spaces in front of every line but the first. -/
def hang (spaces : Nat) (s : String) : String :=
  String.intercalate ("\n" ++ String.ofList (List.replicate spaces ' ')) (s.splitOn "\n")

/-- A cause among several, with its number. -/
def numbered (cause : String × Nat) : String :=
  String.ofList (List.replicate (5 - (toString cause.2).length) ' ') ++ toString cause.2 ++ ": "
    ++ hang 7 cause.1

/-- The paragraph of the causes. A single one has no number. -/
def causeText : List String → String
  | [] => ""
  | [cause] => "\n\nCaused by:\n    " ++ hang 4 cause
  | causes => "\n\nCaused by:\n" ++ String.intercalate "\n" (causes.zipIdx.map numbered)

/-- **Report**: what failed, then the causes. -/
def text (t : Trouble) : String :=
  match t.chain with
  | [] => ""
  | head :: causes => "Error: " ++ head ++ causeText causes ++ "\n"

/-- **Exit code** of a command that failed; none if it is ended from outside. -/
def exitCode? : Trouble → Option Nat
  | failed _ | failedAt .. | stopped _ => some 1
  | crashed (.memory _) => none
  | unfitValue | crashed _ => some 101

end Trouble
end CommandLine
end SwapArchive
