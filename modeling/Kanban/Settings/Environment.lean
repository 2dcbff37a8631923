/-
Environments.  A variable has a name without an equals sign, and neither its name
nor its value holds the character that ends a text in memory.
-/
import Kanban.Mapping

namespace Kanban

/-- Why a variable cannot be set. -/
inductive VariableError where
  | nul
  | badName
  | noName
deriving DecidableEq, Repr

def VariableError.message : VariableError → String
  | .nul => "embedded null byte"
  | .badName => "illegal environment variable name"
  | .noName => "[Errno 22] Invalid argument"

namespace Environment

/-- Whether a variable can be set. -/
def check (name value : String) : Except VariableError Unit :=
  if (name.toList ++ value.toList).contains '\x00' then .error .nul
  else if name.toList.contains '=' then .error .badName
  else if name = "" then .error .noName
  else .ok ()

/-- Variables set one after the other. -/
def ofPairs? (pairs : List (String × String)) :
    Except VariableError (Mapping String) := do
  for (name, value) in pairs do check name value
  return Mapping.ofPairs pairs

end Environment

end Kanban
