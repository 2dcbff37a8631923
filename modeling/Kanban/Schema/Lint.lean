/-
Strict checks of declarations.  Compiling passes over what is incomplete;
these checks say so.
-/
import Kanban.Schema.Entity
import Kanban.Schema.Signature

namespace Kanban

/-- A signature that is no text. -/
structure NotText where
  value : Value
deriving DecidableEq

/-- What is said about a field that compiling leaves out. -/
def OmitReason.warning (reason : OmitReason) : String :=
  reason.text ++ " and will be omitted"

namespace Field

def unknownKindProblem (path kind : String) : String :=
  path ++ ": unknown kind '" ++ kind ++
    "' passes through verbatim; set graphqlType to make this explicit"

mutual

/-- The problems of a field that is told by a path.  An outright type name
settles all but a missing name. -/
def lint (path : String) : Field → List String
  | ⟨facts, items, properties⟩ =>
      let unnamed :=
        if facts.name.toValue.truthy then [] else [path ++ ": field name is empty"]
      if facts.typeName?.isSome then unnamed
      else
        unnamed ++
          (if FieldKind.isKnown facts.kind then [] else [unknownKindProblem path facts.kind]) ++
          (if facts.isArray then lintItems path items else []) ++
          (if facts.isObject then lintProperties path properties else [])

/-- The problems of an array's elements. -/
def lintItems (path : String) : Option Field → List String
  | none => [path ++ ": " ++ OmitReason.arrayWithoutItems.warning]
  | some item => lint (path ++ "[]") item

/-- The problems of an object's attributes. -/
def lintProperties (path : String) : Option (List Field) → List String
  | none => [path ++ ": " ++ OmitReason.objectWithoutProperties.warning]
  | some fields => lintAll path fields

/-- The problems of fields below a path. -/
def lintAll (path : String) : List Field → List String
  | [] => []
  | field :: rest => lint (path ++ "." ++ field.name.shown) field ++ lintAll path rest

end

end Field

def FieldMap.lint (map : FieldMap) (path : String) : List String :=
  Field.lintAll path map.fields

/-- The problem of a declared signature. -/
def Value.signatureProblem? : Value → Except NotText (Option String)
  | .text signature => .ok (Signature.problem? signature)
  | value => .error ⟨value⟩

/-- The problems of an entity, those of its fields first. -/
def Entity.lint (entity : Entity) : Except NotText (List String) := do
  let problems ← (entity.queries ++ entity.mutations).mapM Value.signatureProblem?
  return entity.fields.lint entity.typeName ++
    (problems.filterMap id).map fun problem => entity.typeName ++ ": " ++ problem

/-- The problems of entities in turn. -/
def Entity.lintAll (entities : List Entity) : Except NotText (List String) := do
  return (← entities.mapM Entity.lint).flatten

end Kanban
