/-!
# Environments

An environment gives names their values. A name has one value; what is set first stays.
-/

namespace SwapArchive

/-- Named values. Of two values for a name the first one counts. -/
structure Environment where
  bindings : List (String × String) := []
  deriving DecidableEq, Repr, Inhabited

namespace Environment

def value? (env : Environment) (name : String) : Option String := env.bindings.lookup name

/-- **Default**: gives a name a value unless it has one. A value with a NUL character cannot be
given. -/
def setDefault? (env : Environment) (name value : String) : Option Environment :=
  if (env.value? name).isSome then some env
  else if value.toList.contains '\x00' then none
  else some ⟨env.bindings ++ [(name, value)]⟩

end Environment
end SwapArchive
