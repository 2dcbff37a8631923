/-
Compiling fields to a type definition.  A field whose shape is missing is
left out with a reason; every other field becomes one line, in the order
declared.
-/
import Kanban.Schema.Field

namespace Kanban

/-- Why a field is left out of its type. -/
inductive OmitReason where
  | arrayWithoutItems
  | objectWithoutProperties
deriving DecidableEq, Repr

def OmitReason.text : OmitReason → String
  | .arrayWithoutItems => "array field has no items descriptor"
  | .objectWithoutProperties => "object field has no properties descriptor"

namespace Field

/-- The type of a kind; one that is not built in names itself. -/
def baseType (kind : String) : String :=
  match FieldKind.ofToken? kind with
  | some .string => "String"
  | some .boolean => "Boolean"
  | some .number => "Int"
  | _ => kind

/-- The type of a list. -/
def bracketed (name : String) : String :=
  "[" ++ name ++ "]"

mutual

/-- The type name of a field, if its shape is complete.  An outright name wins
over the kind; on an array it names the elements. -/
def resolveType : Field → Option String
  | ⟨facts, items, properties⟩ =>
      match facts.typeName? with
      | some name => some (if facts.isArray then bracketed name else name)
      | none =>
          if facts.isArray then (resolveItems items).map bracketed
          else if facts.isObject && properties.isNone then none
          else some (baseType facts.kind)

def resolveItems : Option Field → Option String
  | none => none
  | some item => resolveType item

end

mutual

/-- The field, or the element field within it, whose shape is missing. -/
def culprit? : Field → Option Field
  | ⟨facts, items, properties⟩ =>
      if isUnresolved ⟨facts, items, properties⟩ then some ⟨facts, items, properties⟩
      else if facts.typeName?.isSome || !facts.isArray then none
      else culpritItems items

def culpritItems : Option Field → Option Field
  | none => none
  | some item => culprit? item

end

/-- The reason that goes with a kind. -/
def omitReason (field : Field) : OmitReason :=
  if field.isArray then .arrayWithoutItems else .objectWithoutProperties

end Field

/-- A field with its type name. -/
structure EmittedField where
  name : Key
  typeName : String
  required : Bool
deriving DecidableEq

/-- A field that is left out. -/
structure OmittedField where
  name : Key
  reason : OmitReason
deriving DecidableEq

/-- What becomes of a field. -/
inductive FieldOutcome where
  | emitted (field : EmittedField)
  | omitted (field : OmittedField)
deriving DecidableEq

def Field.compile (field : Field) : FieldOutcome :=
  match field.resolveType with
  | some typeName => .emitted ⟨field.name, typeName, field.required⟩
  | none => .omitted ⟨field.name, ((field.culprit?).getD field).omitReason⟩

def FieldOutcome.emitted? : FieldOutcome → Option EmittedField
  | .emitted field => some field
  | .omitted _ => none

def FieldOutcome.omitted? : FieldOutcome → Option OmittedField
  | .emitted _ => none
  | .omitted field => some field

/-- How far lines stand inside a block. -/
def indentation : String := "  "

/-- The line of a field; every line but the last ends in a comma. -/
def EmittedField.line (field : EmittedField) (last : Bool) : String :=
  indentation ++ field.name.shown ++ ": " ++ field.typeName ++
    (if field.required then "!" else "") ++ (if last then "" else ",")

def EmittedField.lines : List EmittedField → List String
  | [] => []
  | [field] => [field.line true]
  | field :: rest => field.line false :: EmittedField.lines rest

/-- A named block of lines between braces. -/
def typeBlock (name : String) (lines : List String) : String :=
  "\n".intercalate (["type " ++ name ++ " \x7b"] ++ lines ++ ["\x7d"])

/-- A compiled type. -/
structure TypeDefinition where
  name : String
  fields : List EmittedField
  omitted : List OmittedField
deriving DecidableEq

def TypeDefinition.lines (definition : TypeDefinition) : List String :=
  EmittedField.lines definition.fields

def TypeDefinition.render (definition : TypeDefinition) : String :=
  typeBlock definition.name definition.lines

/-- The type of a field map. -/
def FieldMap.compile (map : FieldMap) (name : String) : TypeDefinition :=
  let outcomes := map.fields.map Field.compile
  ⟨name, outcomes.filterMap FieldOutcome.emitted?, outcomes.filterMap FieldOutcome.omitted?⟩

/-- A type needs a name. -/
inductive NameError where
  | emptyName
deriving DecidableEq

def NameError.message : NameError → String
  | .emptyName => "Entity name cannot be empty"

/-- The type of a field map under a name that may be empty. -/
def FieldMap.compile? (map : FieldMap) (name : String) : Except NameError TypeDefinition :=
  if name = "" then .error .emptyName else .ok (map.compile name)

end Kanban
