/-
Fields shown and left out.  Compiling parts the declared fields in two, in the order
declared: those that have a type are shown, and the others are left out with a reason.
-/
import Mathlib.Data.List.Nodup
import Kanban.Schema.TypeDefinition

namespace Kanban

/-- What is shown of a field that has a type. -/
def Field.shown? (field : Field) : Option EmittedField :=
  field.resolveType.map fun typeName => ⟨field.name, typeName, field.required⟩

/-- A type definition accounts for the fields of a map.  Those that have a type are shown and
the others left out, each of the two in the order declared, and no field is both. -/
structure FieldMap.PartedInto (map : FieldMap) (definition : TypeDefinition) : Prop where
  shown : definition.fields = map.fields.filterMap Field.shown?
  shownNames : definition.fields.map EmittedField.name =
    (map.fields.filter fun field => field.resolveType.isSome).map fun field => field.name
  omittedNames : definition.omitted.map OmittedField.name =
    (map.fields.filter fun field => field.resolveType.isNone).map fun field => field.name
  once : ∀ name ∈ map.names, name ∈ definition.fields.map EmittedField.name ↔
    name ∉ definition.omitted.map OmittedField.name

namespace Field

theorem emitted?_compile (field : Field) : field.compile.emitted? = field.shown? := by
  unfold compile shown?
  cases field.resolveType <;> rfl

theorem name_emitted? (field : Field) : field.compile.emitted?.map EmittedField.name =
    if field.resolveType.isSome then some field.name else none := by
  unfold compile
  cases field.resolveType <;> rfl

theorem name_omitted? (field : Field) : field.compile.omitted?.map OmittedField.name =
    if field.resolveType.isNone then some field.name else none := by
  unfold compile
  cases field.resolveType <;> rfl

/-- What is kept of the outcomes bears the names of the fields that are kept. -/
theorem names_of_parts {A : Type} {part? : FieldOutcome → Option A} {name : A → Key}
    {keeps : Field → Bool} (hpart : ∀ field : Field,
      (part? field.compile).map name = if keeps field then some field.name else none)
    (fields : List Field) : ((fields.map compile).filterMap part?).map name =
      (fields.filter keeps).map fun field => field.name := by
  have hnames : (fields.filter keeps).map (fun field => field.name) =
      fields.filterMap fun field => if keeps field then some field.name else none := by
    rw [← List.filterMap_filter, ← List.filterMap_eq_map]
    rfl
  rw [hnames, List.map_filterMap, List.filterMap_map]
  exact congrArg (fun step => fields.filterMap step) (funext hpart)

end Field

namespace FieldMap

variable {map : FieldMap}

theorem fields_compile (map : FieldMap) (name : String) :
    (map.compile name).fields = map.fields.filterMap Field.shown? := by
  simp only [compile, List.filterMap_map, Function.comp_def, Field.emitted?_compile]

theorem names_fields_compile (map : FieldMap) (name : String) :
    (map.compile name).fields.map EmittedField.name =
      (map.fields.filter fun field => field.resolveType.isSome).map fun field => field.name :=
  Field.names_of_parts Field.name_emitted? map.fields

theorem names_omitted_compile (map : FieldMap) (name : String) :
    (map.compile name).omitted.map OmittedField.name =
      (map.fields.filter fun field => field.resolveType.isNone).map fun field => field.name :=
  Field.names_of_parts Field.name_omitted? map.fields

/-- Names tell fields, so the name of a field is kept exactly if the field is. -/
theorem mem_names_filter {field : Field} (hfield : field ∈ map.fields) (keeps : Field → Bool) :
    field.name ∈ (map.fields.filter keeps).map (fun field => field.name) ↔
      keeps field = true := by
  constructor
  · intro hmem
    obtain ⟨other, hother, hname⟩ := List.mem_map.mp hmem
    obtain ⟨hother, hkept⟩ := List.mem_filter.mp hother
    have hcanonical := congrArg Key.canonical hname
    rwa [List.inj_on_of_nodup_map map.names_nodup hother hfield hcanonical] at hkept
  · intro hkept
    exact List.mem_map.mpr ⟨field, List.mem_filter.mpr ⟨hfield, hkept⟩, rfl⟩

/-- Compiling loses no field and shows none that it leaves out. -/
theorem partedInto_compile (map : FieldMap) (name : String) :
    map.PartedInto (map.compile name) where
  shown := map.fields_compile name
  shownNames := map.names_fields_compile name
  omittedNames := map.names_omitted_compile name
  once := by
    intro declared hdeclared
    obtain ⟨field, hfield, rfl⟩ := List.mem_map.mp hdeclared
    rw [names_fields_compile, names_omitted_compile, mem_names_filter hfield,
      mem_names_filter hfield]
    cases field.resolveType <;> simp

end FieldMap

end Kanban
