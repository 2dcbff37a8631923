/-
The document of a registry.  It is laid out as the outline of the entities, unless one of
their signatures is no text or the whole text has no bytes to take a fingerprint of.
-/
import Kanban.Proofs.Schema.Outline
import Kanban.Registry.Basic

namespace Kanban

namespace Registry

variable {coding : Coding} {registry : Registry}

/-- The signatures in the order in which they are rendered. -/
def signatures (registry : Registry) : List Value :=
  registry.entities.flatMap Entity.queries ++ registry.entities.flatMap Entity.mutations

/-- The outline of a registry. -/
def outline (registry : Registry) : Outline :=
  .ofEntities (registry.entities.map Entity.compile)

theorem document_eq (coding : Coding) (registry : Registry) :
    registry.document coding = (registry.signatures.find? Value.isWrong).elim
      (((fingerprint coding registry.outline.text).mapError .uncoded).map fun mark =>
        ⟨registry.outline.text, mark, registry.entities.map Entity.name⟩)
      fun wrong => .error (.notText ⟨wrong⟩) := by
  have hsignatures : (registry.entities.map Entity.compile).flatMap CompiledEntity.queries ++
      (registry.entities.map Entity.compile).flatMap CompiledEntity.mutations =
        registry.signatures := by
    rw [List.flatMap_map, List.flatMap_map]
    rfl
  rw [document, Document.ofEntities, renderDocument_eq, hsignatures]
  cases registry.signatures.find? Value.isWrong with
  | some wrong => rfl
  | none =>
      change Except.bind
        ((fingerprint coding registry.outline.text).mapError DocumentError.uncoded) _ = _
      cases fingerprint coding registry.outline.text <;> rfl

/-- Entities whose signatures are texts have a document if their text has bytes. -/
theorem document_of_bytes
    (htexts : ∀ signature ∈ registry.signatures, signature.text?.isSome = true)
    {bytes : List UInt8} (hbytes : coding registry.outline.text = .ok bytes) :
    ∃ mark, registry.document coding =
      .ok ⟨registry.outline.text, mark, registry.entities.map Entity.name⟩ := by
  rw [document_eq, find?_isWrong_eq_none_iff.mpr htexts, Option.elim_none, fingerprint, hbytes]
  exact ⟨_, rfl⟩

theorem document_of_no_bytes
    (htexts : ∀ signature ∈ registry.signatures, signature.text?.isSome = true)
    {message : String} (hbytes : coding registry.outline.text = .error message) :
    registry.document coding = .error (.uncoded message) := by
  rw [document_eq, find?_isWrong_eq_none_iff.mpr htexts, Option.elim_none, fingerprint, hbytes]
  rfl

theorem mem_signatures {signature : Value} : signature ∈ registry.signatures ↔
    ∃ entity ∈ registry.entities, signature ∈ entity.queries ++ entity.mutations := by
  simp only [signatures, List.mem_append, List.mem_flatMap, ← exists_or, ← and_or_left]

end Registry

end Kanban
