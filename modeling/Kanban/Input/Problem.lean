/-
What can be wrong with a value that is given from outside, and where.
-/
import Kanban.Value

namespace Kanban

inductive ProblemKind where
  | missing
  | notJson
  | notObject
  | notList
  | notText
  | tooShort
  | notWhole
  | notNumeral
  | fractional
  | notFinite
  | tooLarge
  | notDecimal
deriving DecidableEq, Repr

/-- The name under which a problem is reported. -/
def ProblemKind.name : ProblemKind → String
  | .missing => "missing"
  | .notJson => "json_invalid"
  | .notObject => "model_attributes_type"
  | .notList => "list_type"
  | .notText => "string_type"
  | .tooShort => "string_too_short"
  | .notWhole => "int_type"
  | .notNumeral => "int_parsing"
  | .fractional => "int_from_float"
  | .notFinite => "finite_number"
  | .tooLarge => "int_parsing_size"
  | .notDecimal => "float_parsing"

/-- One step of the way to a value. -/
inductive PlaceStep where
  | key (name : String)
  | index (number : Nat)
deriving DecidableEq, Repr

/-- A problem, the way to where it lies, and the value found there.  Of something
missing it is the value that lacks it. -/
structure Problem where
  kind : ProblemKind
  place : List PlaceStep
  input : Value
deriving DecidableEq

/-- The problems of something read, none if it could be read. -/
def problemsOf {A : Type} : Except (List Problem) A → List Problem
  | .ok _ => []
  | .error problems => problems

/-- What was read of an input, or its one problem at a place. -/
def locate {A : Type} (place : List PlaceStep) (input : Value) :
    Except ProblemKind A → Except (List Problem) A
  | .ok value => .ok value
  | .error kind => .error [⟨kind, place, input⟩]

end Kanban
