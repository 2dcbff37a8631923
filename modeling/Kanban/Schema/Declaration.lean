/-
Fields as declaration values.  A map spells a field out, a text is short for a
field of that kind, and anything else stands for a plain string field, so
every value declares some field.
-/
import Kanban.Schema.Field

namespace Kanban

namespace Field

/-- The value of the first of two keys that is present. -/
def either? (entries : Entries) (key other : String) : Option Value :=
  (Mapping.get? (.text key) entries).orElse fun _ => Mapping.get? (.text other) entries

/-- Whether a key is present and given. -/
def flag (entries : Entries) (key : String) : Bool :=
  match Mapping.get? (.text key) entries with
  | some value => value.truthy
  | none => false

/-- What the entries of a declaration say about the field itself. -/
def factsOf (name : Key) (entries : Entries) : FieldFacts where
  name := name
  kind := ((either? entries "type" "kind").bind Value.nonEmptyText?).getD
    FieldKind.string.token
  required := flag entries "required"
  override := (either? entries "graphqlType" "type_override").bind Value.nonEmptyText?
  readonly := flag entries "readonly"
  hidden := flag entries "hidden"
  initial := (Mapping.get? (.text "default") entries).getD .null
  description := ((Mapping.get? (.text "description") entries).bind Value.text?).getD ""

mutual

/-- The field that a value declares. -/
def ofValue (name : Key) : Value → Field
  | .text kind => ⟨.plain name (if kind = "" then FieldKind.string.token else kind), none, none⟩
  | .map entries => ⟨factsOf name entries, itemsOf name entries, propertiesOf entries⟩
  | _ => plain name

/-- The element field: a text or a map under the key items. -/
def itemsOf (name : Key) : List (Key × Value) → Option Field
  | [] => none
  | (key, value) :: rest =>
      if key = .text "items" then
        match value with
        | .text kind => some (ofValue name (.text kind))
        | .map entries => some (ofValue name (.map entries))
        | _ => none
      else itemsOf name rest

/-- The attribute fields: a map under the key properties. -/
def propertiesOf : List (Key × Value) → Option (List Field)
  | [] => none
  | (key, value) :: rest =>
      if key = .text "properties" then
        match value with
        | .map entries => some (fieldsOf entries)
        | _ => none
      else propertiesOf rest

/-- One field for every entry, under its key. -/
def fieldsOf : List (Key × Value) → List Field
  | [] => []
  | (name, value) :: rest => ofValue name value :: fieldsOf rest

end

/-- An entry that is written only when it holds. -/
def entryIf (condition : Bool) (key : String) (value : Value) : Entries :=
  if condition then [(.text key, value)] else []

mutual

/-- The map that spells a field out, without what is not said. -/
def toValue : Field → Value
  | ⟨facts, items, properties⟩ =>
      .map (("type", .text facts.kind) ::
        (entryIf facts.required "required" (.bool true) ++
          itemsEntry items ++ propertiesEntry properties ++
          (match facts.typeName? with
            | some name => [("graphqlType", .text name)]
            | none => []) ++
          entryIf facts.readonly "readonly" (.bool true) ++
          entryIf facts.hidden "hidden" (.bool true) ++
          entryIf (decide (facts.initial ≠ .null)) "default" facts.initial ++
          entryIf (decide (facts.description ≠ "")) "description" (.text facts.description)))

def itemsEntry : Option Field → Entries
  | none => []
  | some field => [("items", toValue field)]

def propertiesEntry : Option (List Field) → Entries
  | none => []
  | some fields => [("properties", .map (entriesOf fields))]

/-- The entries of fields, each under its name. -/
def entriesOf : List Field → Entries
  | [] => []
  | field :: rest => (field.name, toValue field) :: entriesOf rest

end

/-- What stands at a name when fields are listed: a value that declares one,
or a field that is taken over under the name. -/
inductive Source where
  | value (value : Value)
  | field (field : Field)

def ofSource (name : Key) : Source → Field
  | .value value => ofValue name value
  | .field field => field.rename name

end Field

/-- The fields of named sources, in their order. -/
def FieldMap.ofSources? (sources : List (Key × Field.Source)) :
    Except RepeatedFields FieldMap :=
  FieldMap.ofList? (sources.map fun (name, source) => Field.ofSource name source)

/-- The fields that the entries of a map declare. -/
def FieldMap.ofMapping? (entries : Entries) : Except RepeatedFields FieldMap :=
  FieldMap.ofList? (Field.fieldsOf entries)

/-- Fields as a map from their names. -/
def FieldMap.toMapping (map : FieldMap) : Entries :=
  Field.entriesOf map.fields

end Kanban
