/-
The registry of entities: each name once, in the order registered.
-/
import Kanban.Schema.Document

namespace Kanban

/-- The key that an entity is registered under: its name, if that can be a key.
Equal keys are one. -/
def Entity.key? (entity : Entity) : Option Key :=
  entity.name.key?.map Key.canonical

/-- Why an entity is not registered. -/
inductive RegisterError where
  /-- An entity of the name is already registered. -/
  | duplicate (name : Value)
  /-- The name cannot be a key. -/
  | notKey (name : Value)
deriving DecidableEq

@[ext]
structure Registry where
  entities : List Entity
  keys_isSome : ∀ entity ∈ entities, entity.key?.isSome = true
  keys_nodup : (entities.map Entity.key?).Nodup

namespace Registry

def empty : Registry :=
  ⟨[], fun _ hentity => absurd hentity List.not_mem_nil, List.nodup_nil⟩

def keys (registry : Registry) : List (Option Key) :=
  registry.entities.map Entity.key?

def get? (registry : Registry) (name : String) : Option Entity :=
  registry.entities.find? fun entity => decide (entity.name = .text name)

theorem nodup_append_key {entities : List Entity} {entity : Entity}
    (hnodup : (entities.map Entity.key?).Nodup) (hnew : entity.key? ∉ entities.map Entity.key?) :
    ((entities ++ [entity]).map Entity.key?).Nodup := by
  rw [List.map_append, List.nodup_append]
  refine ⟨hnodup, by simp, ?_⟩
  intro a ha b hb heq
  simp only [List.map_cons, List.map_nil, List.mem_singleton] at hb
  exact hnew (by rw [← hb, ← heq]; exact ha)

theorem isSome_append_key {entities : List Entity} {entity : Entity}
    (hkeys : ∀ entity ∈ entities, entity.key?.isSome = true) (hkey : entity.key?.isSome = true) :
    ∀ other ∈ entities ++ [entity], other.key?.isSome = true := by
  intro other hother
  rcases List.mem_append.mp hother with hmem | hmem
  · exact hkeys other hmem
  · rw [List.mem_singleton.mp hmem]
    exact hkey

/-- Add an entity behind the others. -/
def register (registry : Registry) (entity : Entity) : Except RegisterError Registry :=
  if hkey : entity.key?.isSome then
    if hold : entity.key? ∈ registry.entities.map Entity.key? then .error (.duplicate entity.name)
    else
      .ok ⟨registry.entities ++ [entity], isSome_append_key registry.keys_isSome hkey,
        nodup_append_key registry.keys_nodup hold⟩
  else .error (.notKey entity.name)

theorem register_eq_ok {registry next : Registry} {entity : Entity}
    (hregister : registry.register entity = .ok next) :
    entity.key?.isSome = true ∧ entity.key? ∉ registry.keys ∧
      next.entities = registry.entities ++ [entity] := by
  rw [register] at hregister
  split at hregister
  · split at hregister
    · cases hregister
    · rw [← Except.ok.inj hregister]
      exact ⟨‹_›, ‹_›, rfl⟩
  · cases hregister

/-- Register entities in turn. -/
def registerAll (registry : Registry) (entities : List Entity) :
    Except RegisterError Registry :=
  entities.foldlM register registry

/-- What compiling warns about: every field that is left out. -/
def omissions (registry : Registry) : List (String × OmittedField) :=
  registry.entities.flatMap fun entity =>
    entity.typeDefinition.omitted.map fun field => (entity.typeName, field)

/-- The document of all entities. -/
def document (registry : Registry) (coding : Coding) : Except DocumentError Document :=
  Document.ofEntities coding registry.entities

/-- A registry of entities alone. -/
def ofList? (entities : List Entity) : Except RegisterError Registry :=
  empty.registerAll entities

end Registry

/-- Why entities cannot be compiled. -/
inductive CompileError where
  | unregistered (cause : RegisterError)
  | unrendered (cause : DocumentError)

/-- The document text of entities. -/
def schemaText (coding : Coding) (entities : List Entity) : Except CompileError String :=
  match Registry.ofList? entities with
  | .error cause => .error (.unregistered cause)
  | .ok registry =>
      match registry.document coding with
      | .error cause => .error (.unrendered cause)
      | .ok document => .ok document.text

end Kanban
