/-
Separators between lines.  Fields without a type leave before any line is written, and the
lines of a block are told which of them is the last.  So a comma stands between any two
lines of a block and nowhere else, however many fields are left out and wherever they stood.
-/
import Kanban.Proofs.Schema.Outline
import Kanban.Proofs.Schema.Parting

namespace Kanban

/-- The line of a field without a separator. -/
def EmittedField.bareLine (field : EmittedField) : String :=
  indentation ++ field.name.shown ++ ": " ++ field.typeName ++ if field.required then "!" else ""

/-- A named block of lines that end without a separator. -/
def separatedBlock (name : String) (lines : List String) : String :=
  "type " ++ name ++ " \x7b\n" ++ ",\n".intercalate lines ++
    (if lines.isEmpty then "" else "\n") ++ "\x7d"

/-- The block of one kind of operation, left out when there are none. -/
def separatedOperations (name : String) (signatures : List String) : List String :=
  if signatures.isEmpty then []
  else [separatedBlock name (signatures.map fun signature => indentation ++ signature)]

/-- The document of entities in registration order: the types, then the signatures of all
entities together. -/
def separatedDocument (entities : List CompiledEntity) : String :=
  "\n\n".intercalate (preamble ::
    entities.map (fun entity => separatedBlock entity.definition.name
      (entity.definition.fields.map EmittedField.bareLine)) ++
    separatedOperations "Query" (signatureTexts (entities.flatMap CompiledEntity.queries)) ++
    separatedOperations "Mutation" (signatureTexts (entities.flatMap CompiledEntity.mutations))) ++
    "\n"

section

variable {A : Type} {line : A → Bool → String} {bare : A → String} {xs : List A}

/-- Lines that are told which is the last, and one more below them. -/
theorem intercalate_listed
    (hline : ∀ x last, line x last = bare x ++ if last then "" else ",") (hsome : xs ≠ [])
    (closing : String) : "\n".intercalate (listed line xs ++ [closing]) =
      ",\n".intercalate (xs.map bare) ++ "\n" ++ closing := by
  induction xs with
  | nil => exact absurd rfl hsome
  | cons x rest ih =>
      cases rest with
      | nil => simp [listed, hline]
      | cons next rest =>
          have hbelow : listed line (next :: rest) ++ [closing] ≠ [] := by simp
          have hbreak : "," ++ "\n" = ",\n" := rfl
          have hjoined : ",\n".intercalate ((x :: next :: rest).map bare) =
              bare x ++ ",\n" ++ ",\n".intercalate ((next :: rest).map bare) :=
            String.intercalate_cons_cons
          rw [listed_cons_cons, List.cons_append, String.intercalate_cons_of_ne_nil hbelow,
            ih (List.cons_ne_nil next rest), hline, if_neg Bool.false_ne_true, hjoined, ← hbreak]
          simp only [String.append_assoc]

theorem typeBlock_listed
    (hline : ∀ x last, line x last = bare x ++ if last then "" else ",") (name : String)
    (xs : List A) : typeBlock name (listed line xs) = separatedBlock name (xs.map bare) := by
  have hheader : typeBlock name (listed line xs) =
      "type " ++ name ++ " \x7b" ++ "\n" ++ "\n".intercalate (listed line xs ++ ["\x7d"]) := by
    rw [typeBlock, List.append_assoc, List.singleton_append,
      String.intercalate_cons_of_ne_nil (by simp)]
  have hbreak : " \x7b" ++ "\n" = " \x7b\n" := rfl
  rw [hheader, separatedBlock, ← hbreak]
  cases xs with
  | nil => simp [listed, String.append_assoc]
  | cons x rest =>
      rw [intercalate_listed hline (List.cons_ne_nil x rest)]
      simp [String.append_assoc]

end

theorem TypeDefinition.render_eq (definition : TypeDefinition) :
    definition.render =
      separatedBlock definition.name (definition.fields.map EmittedField.bareLine) := by
  rw [render, lines, lines_eq_listed]
  exact typeBlock_listed (fun _ _ => rfl) definition.name definition.fields

theorem operations_eq_separated (name : String) (signatures : List String) :
    (Outline.operations name signatures).map (fun block => "\n".intercalate block) =
      separatedOperations name signatures := by
  unfold Outline.operations separatedOperations
  cases signatures.isEmpty with
  | true => rfl
  | false =>
      rw [operationLines_eq_listed]
      exact congrArg List.singleton (typeBlock_listed (fun _ _ => rfl) name signatures)

/-- The layout of the outline of entities puts no separator elsewhere. -/
theorem text_ofEntities (entities : List CompiledEntity) :
    (Outline.ofEntities entities).text = separatedDocument entities := by
  have htype (entity : CompiledEntity) : "\n".intercalate
      (Outline.typeLines (entity.definition.name, entity.definition.fields)) =
        separatedBlock entity.definition.name
          (entity.definition.fields.map EmittedField.bareLine) :=
    entity.definition.render_eq
  simp only [Outline.text, Outline.blocks, Outline.ofEntities, separatedDocument, List.map_cons,
    List.map_append, List.map_map, Function.comp_def, htype, operations_eq_separated,
    String.intercalate_singleton, List.cons_append, List.append_assoc]

/-- Under a name that is not empty any fields compile to a type that accounts for all of
them, and in its block a comma stands between any two lines and nowhere else.  So it does
throughout the document of any entities, whose signatures are gathered in turn; there is
none where one of these is no text. -/
theorem commas_between (map : FieldMap) {name : String} (hname : name ≠ "")
    (entities : List CompiledEntity) :
    (∃ definition, map.compile? name = .ok definition ∧ definition.name = name ∧
      map.PartedInto definition ∧
      definition.render =
        separatedBlock name (definition.fields.map EmittedField.bareLine)) ∧
    renderDocument entities = ((entities.flatMap CompiledEntity.queries ++
      entities.flatMap CompiledEntity.mutations).find? Value.isWrong).elim
        (.ok (separatedDocument entities)) fun value => .error ⟨value⟩ := by
  refine ⟨⟨map.compile name, if_neg hname, rfl, map.partedInto_compile name,
    (map.compile name).render_eq⟩, ?_⟩
  rw [renderDocument_eq, text_ofEntities]

/-- Fields of which the second and the last have no type. -/
def sparseFields : FieldMap :=
  ⟨[{ Field.plain "title" with required := true }, ⟨.plain "labels" "array", none, none⟩,
    ⟨.plain "rows" "array", some (.plain "row"), none⟩,
    ⟨.plain "options" "object", none, none⟩], by decide⟩

/-- The type of such fields, and the document of an entity that has them and of another
one without any. -/
theorem commas_between_sparse :
    let sparse : CompiledEntity := ⟨sparseFields.compile "Sheet",
      [.text " sheet: Sheet ", .text "sheets: [Sheet]"], []⟩
    let bare : CompiledEntity := ⟨FieldMap.empty.compile "Empty",
      [.text "empty: Empty"], [.text "clear: Boolean"]⟩
    let definition := sparseFields.compile "Sheet"
    "Sheet" ≠ "" ∧ sparseFields.compile? "Sheet" = .ok definition ∧
      sparseFields.PartedInto definition ∧
      definition.fields.map EmittedField.name = ["title", "rows"] ∧
      definition.omitted.map OmittedField.name = ["labels", "options"] ∧
      definition.render = "type Sheet \x7b\n  title: String!,\n  rows: [String]\n\x7d" ∧
      renderDocument [sparse, bare] = .ok ("scalar Date\n\n" ++
        "type Sheet \x7b\n  title: String!,\n  rows: [String]\n\x7d\n\n" ++
        "type Empty \x7b\n\x7d\n\n" ++
        "type Query \x7b\n  sheet: Sheet,\n  sheets: [Sheet],\n  empty: Empty\n\x7d\n\n" ++
        "type Mutation \x7b\n  clear: Boolean\n\x7d\n") := by
  intro sparse bare definition
  have hname : "Sheet" ≠ "" := by decide
  obtain ⟨⟨found, hfound, -, hparts, hrender⟩, hdocument⟩ :=
    commas_between sparseFields hname [sparse, bare]
  obtain rfl : definition = found := Except.ok.inj hfound
  refine ⟨hname, hfound, hparts, by decide +kernel, by decide +kernel, ?_, ?_⟩
  · rw [hrender]
    decide +kernel
  · rw [hdocument]
    decide +kernel

end Kanban
