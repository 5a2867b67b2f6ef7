/-!
# Log records

What an operation reports while it works. A record is a level, a sentence and named values; the
values are text, ready to be shown. Operations return their records in the order in which they
were made, and the outer layer decides where they go.
-/

namespace SwapArchive.Log

/-- How much a record matters. -/
inductive Level where
  | debug
  | info
  | warn
  | error
  deriving DecidableEq, Repr

def Level.name : Level → String
  | debug => "DEBUG"
  | info => "INFO"
  | warn => "WARN"
  | error => "ERROR"

structure Record where
  level : Level
  message : String
  fields : List (String × String)
  deriving DecidableEq, Repr

namespace Record

def debug (message : String) (fields : List (String × String)) : Record := ⟨.debug, message, fields⟩

def info (message : String) (fields : List (String × String)) : Record := ⟨.info, message, fields⟩

def warn (message : String) (fields : List (String × String)) : Record := ⟨.warn, message, fields⟩

def error (message : String) (fields : List (String × String)) : Record :=
  ⟨.error, message, fields⟩

/-- **Line** of a record: its level, its message, and its values by their names. -/
def line (r : Record) : String :=
  String.intercalate " " (r.level.name :: r.message :: r.fields.map fun (k, v) => k ++ "=" ++ v)

end Record
end SwapArchive.Log
