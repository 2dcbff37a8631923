/-
Documents of well-named entities.  Identifiers, types built of them and signatures on
one line keep clear of the marks of the layout.  So the document of well-named
entities shows which types, fields and signatures it was made of, and whatever
changes in them changes its text.
-/
import Mathlib.Data.List.TakeWhile
import Kanban.Proofs.Schema.Outline

namespace Kanban

/-- A letter or an underscore, and then letters, digits and underscores. -/
def IsIdentifier (text : String) : Prop :=
  Signature.afterName? text.toList = some []

instance (text : String) : Decidable (IsIdentifier text) :=
  inferInstanceAs (Decidable (_ = _))

/-- An identifier, or a list of what a type name names. -/
inductive IsTypeName : String → Prop where
  | base {name : String} (hname : IsIdentifier name) : IsTypeName name
  | list {name : String} (hname : IsTypeName name) : IsTypeName (Field.bracketed name)

variable {text : String} {c : Char}

theorem IsIdentifier.isNameRest (htext : IsIdentifier text) :
    ∀ c ∈ text.toList, Signature.isNameRest c = true := by
  unfold IsIdentifier at htext
  generalize text.toList = chars at htext
  cases chars with
  | nil => cases htext
  | cons first rest =>
      rw [Signature.afterName?] at htext
      split at htext
      · rename_i hfirst
        rw [Option.some.injEq, List.dropWhile_eq_nil_iff] at htext
        rintro c (_ | ⟨_, hc⟩)
        · simp [Signature.isNameRest, hfirst]
        · exact htext c hc
      · cases htext

theorem IsIdentifier.not_mem (htext : IsIdentifier text)
    (hc : Signature.isNameRest c = false) : c ∉ text.toList := by
  intro hmem
  rw [htext.isNameRest c hmem] at hc
  cases hc

/-- What stands in no identifier and is no bracket stands in no type name. -/
theorem IsTypeName.not_mem (htext : IsTypeName text) (hc : Signature.isNameRest c = false)
    (hopen : c ≠ '[') (hclose : c ≠ ']') : c ∉ text.toList := by
  induction htext with
  | base hname => exact hname.not_mem hc
  | list _ ih => simp [Field.bracketed, hopen, hclose, ih]

theorem mem_of_mem_stripped (hc : c ∈ (stripped text).toList) : c ∈ text.toList := by
  rw [stripped, String.toList_ofList, trimBlank, List.mem_reverse] at hc
  have hback := List.mem_reverse.mp (List.dropWhile_subset _ hc)
  exact List.dropWhile_subset _ hback

/-- A compiled entity whose names are identifiers, its types built of them, and whose
signatures are texts on one line; it is not named as a block of operations is. -/
structure CompiledEntity.WellNamed (entity : CompiledEntity) : Prop where
  name : IsIdentifier entity.definition.name
  notOperations : entity.definition.name ≠ "Query" ∧ entity.definition.name ≠ "Mutation"
  fields : ∀ field ∈ entity.definition.fields,
    (∃ text : String, field.name = .text text ∧ IsIdentifier text) ∧ IsTypeName field.typeName
  signatures : ∀ signature ∈ entity.queries ++ entity.mutations,
    ∃ text, signature = .text text ∧ '\n' ∉ text.toList

namespace CompiledEntity.WellNamed

variable {entities : List CompiledEntity}

theorem texts (hnamed : ∀ entity ∈ entities, entity.WellNamed) :
    ∀ entity ∈ entities, ∀ signature ∈ entity.queries ++ entity.mutations,
      signature.text?.isSome = true := by
  intro entity hentity signature hsignature
  obtain ⟨text, rfl, -⟩ := (hnamed entity hentity).signatures signature hsignature
  rfl

/-- Signatures on one line stay so without their blanks. -/
theorem oneLine {declared : CompiledEntity → List Value}
    (hnamed : ∀ entity ∈ entities, ∀ signature ∈ declared entity,
      ∃ text, signature = .text text ∧ '\n' ∉ text.toList) :
    ∀ signature ∈ signatureTexts (entities.flatMap declared), '\n' ∉ signature.toList := by
  intro signature hsignature
  obtain ⟨value, hvalue, htext⟩ := List.mem_filterMap.mp hsignature
  obtain ⟨entity, hentity, hvalue⟩ := List.mem_flatMap.mp hvalue
  obtain ⟨text, rfl, hline⟩ := hnamed entity hentity value hvalue
  obtain rfl := Option.some.inj htext
  exact fun hbreak => hline (mem_of_mem_stripped hbreak)

theorem legible (hnamed : ∀ entity ∈ entities, entity.WellNamed) :
    (Outline.ofEntities entities).Legible where
  names := by
    intro type htype
    obtain ⟨entity, hentity, rfl⟩ := List.mem_map.mp htype
    have hentity := hnamed entity hentity
    exact ⟨hentity.name.not_mem (by decide), hentity.notOperations⟩
  fields := by
    intro type htype field hfield
    obtain ⟨entity, hentity, rfl⟩ := List.mem_map.mp htype
    obtain ⟨⟨text, htext, hname⟩, htypeName⟩ := (hnamed entity hentity).fields field hfield
    exact ⟨⟨text, htext, hname.not_mem (by decide), hname.not_mem (by decide)⟩,
      htypeName.not_mem (by decide) (by decide) (by decide),
      htypeName.not_mem (by decide) (by decide) (by decide)⟩
  queries := oneLine fun entity hentity signature hsignature =>
    (hnamed entity hentity).signatures signature (List.mem_append_left _ hsignature)
  mutations := oneLine fun entity hentity signature hsignature =>
    (hnamed entity hentity).signatures signature (List.mem_append_right _ hsignature)

end CompiledEntity.WellNamed

/-- Well-named entities have a document, and two lists of them have the same document
exactly when they show the same: the names of the entities in turn, with the name, the
type and the requiredness of every field, and all queries and mutations in turn,
without the blanks around them. -/
theorem document_determines {entities others : List CompiledEntity}
    (hentities : ∀ entity ∈ entities, entity.WellNamed)
    (hothers : ∀ entity ∈ others, entity.WellNamed) :
    (∃ text, renderDocument entities = .ok text) ∧ (∃ text, renderDocument others = .ok text) ∧
      (renderDocument entities = renderDocument others ↔
        Outline.ofEntities entities = Outline.ofEntities others) := by
  rw [renderDocument_of_texts (CompiledEntity.WellNamed.texts hentities),
    renderDocument_of_texts (CompiledEntity.WellNamed.texts hothers)]
  refine ⟨⟨_, rfl⟩, ⟨_, rfl⟩, ?_⟩
  constructor
  · intro hsame
    exact (CompiledEntity.WellNamed.legible hentities).text_inj
      (CompiledEntity.WellNamed.legible hothers) (Except.ok.inj hsame)
  · intro hsame
    rw [hsame]

/-- An entity without fields and one with a list that must be given. -/
def boardAndCard (boardQueries cardQueries : List Value) (required : Bool) :
    List CompiledEntity :=
  [⟨⟨"Board", [], []⟩, boardQueries, []⟩,
    ⟨⟨"Card", [⟨"labels", "[[Int]]", required⟩], []⟩, cardQueries, [.text "cut(id: Int): Card"]⟩]

/-- It makes no difference to a document which entity a query came from or which blanks
stand around it, but it does whether a field must be given. -/
theorem document_determines_boardAndCard :
    let queried := boardAndCard [.text " all : [Board] "] [] true
    let moved := boardAndCard [] [.text "all : [Board]"] true
    let optional := boardAndCard [.text " all : [Board] "] [] false
    ((∀ entity ∈ queried, entity.WellNamed) ∧ (∀ entity ∈ moved, entity.WellNamed) ∧
        ∀ entity ∈ optional, entity.WellNamed) ∧
      renderDocument queried = renderDocument moved ∧
      renderDocument queried ≠ renderDocument optional := by
  intro queried moved optional
  have hboard : IsIdentifier "Board" ∧ "Board" ≠ "Query" ∧ "Board" ≠ "Mutation" := by decide
  have hcard : IsIdentifier "Card" ∧ "Card" ≠ "Query" ∧ "Card" ≠ "Mutation" := by decide
  have hlabels : IsIdentifier "labels" := by decide
  have htype : IsTypeName "[[Int]]" := .list (.list (.base (show IsIdentifier "Int" by decide)))
  have hnamed (boardQueries cardQueries : List Value) (required : Bool)
      (hqueries : ∀ signature ∈ boardQueries ++ cardQueries,
        ∃ text, signature = .text text ∧ '\n' ∉ text.toList) :
      ∀ entity ∈ boardAndCard boardQueries cardQueries required, entity.WellNamed := by
    rintro entity (_ | ⟨_, _ | ⟨_, hnone⟩⟩)
    · refine ⟨hboard.1, hboard.2, by simp, fun signature hsignature => ?_⟩
      rw [List.append_nil] at hsignature
      exact hqueries signature (List.mem_append_left _ hsignature)
    · refine ⟨hcard.1, hcard.2, by simpa using ⟨hlabels, htype⟩, ?_⟩
      intro signature hsignature
      rcases List.mem_append.mp hsignature with hquery | hmutation
      · exact hqueries signature (List.mem_append_right _ hquery)
      · exact ⟨_, List.mem_singleton.mp hmutation, by decide⟩
    · cases hnone
  have hqueried : ∀ entity ∈ queried, entity.WellNamed :=
    hnamed _ _ _ (by simp)
  have hmoved : ∀ entity ∈ moved, entity.WellNamed :=
    hnamed _ _ _ (by simp)
  have hoptional : ∀ entity ∈ optional, entity.WellNamed :=
    hnamed _ _ _ (by simp)
  refine ⟨⟨hqueried, hmoved, hoptional⟩, ?_, ?_⟩
  · exact (document_determines hqueried hmoved).2.2.mpr (by decide +kernel)
  · intro hsame
    exact absurd ((document_determines hqueried hoptional).2.2.mp hsame) (by decide +kernel)

end Kanban
