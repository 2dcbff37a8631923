/-
Entities of the API: a type name, its fields, and the signatures of its queries
and mutations.  Neither the name nor a signature need be a text: a name prints as
something, but nothing can be made of such a signature.
-/
import Kanban.Schema.Declaration
import Kanban.Schema.TypeDefinition

namespace Kanban

structure Entity where
  name : Value
  fields : FieldMap
  queries : List Value
  mutations : List Value
  description : Value
  name_given : name.truthy = true
deriving DecidableEq

/-- The name of an entity's type: its own as it prints. -/
def Entity.typeName (entity : Entity) : String :=
  entity.name.shown

/-- Why a value declares no entity. -/
inductive EntityError where
  /-- Something other than a map stands where an entity is declared. -/
  | notMap
  /-- Something that has no elements stands where a list is declared. -/
  | notList
  /-- Something other than a map stands under an entity's name. -/
  | notBody
  /-- The name of a listed field cannot be a key. -/
  | notKey (name : Value)
  | missing (key : String)
  | emptyName
  | repeated (fields : RepeatedFields)
deriving DecidableEq

def EntityError.message : EntityError → String
  | .notMap | .notList | .notBody | .notKey _ => ""
  | .missing key => key
  | .emptyName => NameError.emptyName.message
  | .repeated cause => cause.message

/-- The elements of a value: of a text its characters, of a map its keys. -/
def Value.elements? : Value → Option (List Value)
  | .list items => some items
  | .text chars => some (chars.toList.map fun c => .text (String.ofList [c]))
  | .map entries => some (entries.map fun entry => entry.1.toValue)
  | _ => none

/-- The elements of a list that may be missing; what does not count as given
has none. -/
def Value.elementsIfGiven? : Option Value → Except EntityError (List Value)
  | none => .ok []
  | some value =>
      if value.truthy then
        match value.elements? with
        | some items => .ok items
        | none => .error .notList
      else .ok []

namespace Entity

/-- The name of a listed declaration with its entries.  Elements that are no maps,
and maps whose name is missing or counts as missing, are passed over. -/
def listed? : Value → Option (Value × Entries)
  | .map entries =>
      ((Mapping.get? (.text "name") entries).filter Value.truthy).map fun name => (name, entries)
  | _ => none

/-- The field of a listed declaration, if its name can be a key. -/
def listedField (declared : Value × Entries) : Except EntityError Field :=
  match declared.1.key? with
  | some name => .ok (Field.ofValue name (.map declared.2))
  | none => .error (.notKey declared.1)

/-- The fields of an entity: a map by name, or a list of declarations that
carry their names. -/
def declaredFields? : Option Value → Except EntityError (List Field)
  | some (.map entries) => .ok (Field.fieldsOf entries)
  | value => do ((← Value.elementsIfGiven? value).filterMap listed?).mapM listedField

/-- The fields of an entity as a map, no name twice. -/
def fieldsOf? (value : Option Value) : Except EntityError FieldMap := do
  match FieldMap.ofList? (← declaredFields? value) with
  | .ok fields => .ok fields
  | .error cause => .error (.repeated cause)

def nameOf? (entries : Entries) : Except EntityError Value :=
  match Mapping.get? (.text "name") entries with
  | some value => .ok value
  | none => .error (.missing "name")

/-- The entity that a value declares.  Fields are read first, then the name is
asked for, then queries and mutations are read, and last a name that does not
count as given is turned down. -/
def ofValue? : Value → Except EntityError Entity
  | .map entries => do
      let fields ← fieldsOf? (Mapping.get? (.text "fields") entries)
      let name ← nameOf? entries
      let queries ← Value.elementsIfGiven? (Mapping.get? (.text "queries") entries)
      let mutations ← Value.elementsIfGiven? (Mapping.get? (.text "mutations") entries)
      let description := (Mapping.get? (.text "description") entries).getD (.text "")
      if h : name.truthy then .ok ⟨name, fields, queries, mutations, description, h⟩
      else .error .emptyName
  | _ => .error .notMap

/-- The map that declares an entity, without what is empty. -/
def toMapping (entity : Entity) : Entries :=
  [(.text "name", entity.name), (.text "fields", .map entity.fields.toMapping)] ++
    Field.entryIf (!entity.queries.isEmpty) "queries" (.list entity.queries) ++
    Field.entryIf (!entity.mutations.isEmpty) "mutations" (.list entity.mutations) ++
    Field.entryIf entity.description.truthy "description" entity.description

def toValue (entity : Entity) : Value :=
  .map entity.toMapping

/-- The type of an entity. -/
def typeDefinition (entity : Entity) : TypeDefinition :=
  entity.fields.compile entity.typeName

end Entity

/-- What an entity contributes to a document. -/
structure CompiledEntity where
  definition : TypeDefinition
  queries : List Value
  mutations : List Value
deriving DecidableEq

def Entity.compile (entity : Entity) : CompiledEntity :=
  ⟨entity.typeDefinition, entity.queries, entity.mutations⟩

/-- The list of entities in a declaration document: the document itself or
what it has under the key entities, and in place of a list a map from names to
the rest of each entity. -/
def declaredList? (document : Value) : Except EntityError (List Value) :=
  let body : Value :=
    match document with
    | .map entries => (Mapping.get? (.text "entities") entries).getD document
    | _ => document
  match body with
  | .map entries =>
      entries.mapM fun (name, body) =>
        if body.truthy then
          match body with
          | .map rest => .ok (.map (Mapping.setAll [("name", name.toValue)] rest))
          | _ => .error .notBody
        else .ok (.map [("name", name.toValue)])
  | body => Value.elementsIfGiven? (some body)

/-- The entities of a declaration document. -/
def Entity.readAll? (document : Value) : Except EntityError (List Entity) := do
  (← declaredList? document).mapM Entity.ofValue?

end Kanban
