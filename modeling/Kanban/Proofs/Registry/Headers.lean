/-
The headers of a document.  Every type is headed by its name, and so are the blocks of
queries and mutations.  The registry keeps the names of types apart but not from the names
of these blocks, so a type that is named as one of them can share its header.
-/
import Mathlib.Data.List.Count
import Kanban.Proofs.Registry.Deliveries
import Kanban.Proofs.Registry.Documents
import Kanban.Proofs.Schema.Naming
import Kanban.Proofs.Schema.Parting

namespace Kanban

/-- An entity whose names are identifiers and whose signatures are texts on one line. -/
structure Entity.Plain (entity : Entity) : Prop where
  name : ∃ text : String, entity.name = .text text ∧ IsIdentifier text
  fields : ∀ name ∈ entity.fields.names, ∃ text : String, name = .text text ∧ IsIdentifier text
  signatures : ∀ signature ∈ entity.queries ++ entity.mutations,
    ∃ text, signature = .text text ∧ '\n' ∉ text.toList

/-- The blocks of operations that the entities of a registry call for. -/
def Registry.operationNames (registry : Registry) : List String :=
  (if ∀ entity ∈ registry.entities, entity.queries = [] then [] else ["Query"]) ++
    (if ∀ entity ∈ registry.entities, entity.mutations = [] then [] else ["Mutation"])

namespace Outline

variable {name other : String} {outline : Outline}

/-- How often a header stands in the lines of fields, behind a break within one of them. -/
def spilled (outline : Outline) (name : String) : Nat :=
  lineCounts (header name) (outline.types.flatMap fun type => EmittedField.lines type.2)

theorem header_ne_empty (name : String) : header name ≠ "" := by
  intro heq
  have hchars := congrArg String.toList heq
  simp [header] at hchars

/-- Headers stand in a block as often as in its lines, but for its own. -/
theorem lineCounts_block (hother : '\n' ∉ other.toList) (lines : List String) :
    lineCounts (header name) (blockLines other lines) =
      (if other = name then 1 else 0) + lineCounts (header name) lines := by
  have hheader : '\n' ∉ (header other).toList := by simp [header, hother]
  have hsame : header other = header name ↔ other = name :=
    ⟨header_inj, fun heq => heq ▸ rfl⟩
  have hclosing : lineCount (header name) "\x7d" = 0 := by
    rw [lineCount_of_not_mem (by decide), if_neg]
    intro heq
    have hchars := congrArg String.toList heq
    simp [header] at hchars
  rw [blockLines, lineCounts_cons, lineCounts_append, lineCount_of_not_mem hheader,
    if_congr hsame rfl rfl, lineCounts_cons, hclosing]
  rfl

/-- An indented line is no header. -/
theorem lineCount_indented {rest : String} (hrest : '\n' ∉ rest.toList) :
    lineCount (header name) (indentation ++ rest) = 0 := by
  have hline : '\n' ∉ (indentation ++ rest).toList := by simp [indentation, hrest]
  rw [lineCount_of_not_mem hline, if_neg]
  intro heq
  have hchars := congrArg String.toList heq
  simp [header, indentation] at hchars

theorem lineCount_operation {signature : String} (hsignature : '\n' ∉ signature.toList)
    (last : Bool) : lineCount (header name) (operationLine signature last) = 0 := by
  have hrest : '\n' ∉ (signature ++ if last then "" else ",").toList := by
    cases last <;> simp [hsignature]
  rw [operationLine, String.append_assoc]
  exact lineCount_indented hrest

theorem lineCount_field {field : EmittedField} (hname : '\n' ∉ field.name.shown.toList)
    (htype : '\n' ∉ field.typeName.toList) (last : Bool) :
    lineCount (header name) (field.line last) = 0 := by
  have hrest : '\n' ∉ (field.name.shown ++ (": " ++ (field.typeName ++
      ((if field.required then "!" else "") ++ if last then "" else ",")))).toList := by
    cases field.required <;> cases last <;> simp [hname, htype]
  simp only [EmittedField.line, String.append_assoc]
  exact lineCount_indented hrest

/-- The headers in the block of one kind of operation. -/
theorem lineCounts_operations {signatures : List String} (hother : '\n' ∉ other.toList)
    (hsignatures : ∀ signature ∈ signatures, '\n' ∉ signature.toList) :
    lineCounts (header name) (operations other signatures).flatten =
      if other = name ∧ signatures ≠ [] then 1 else 0 := by
  unfold operations
  cases signatures with
  | nil => simp [lineCounts]
  | cons signature rest =>
      have hlines : lineCounts (header name) (operationLines (signature :: rest)) = 0 := by
        refine lineCounts_eq_zero fun line hline => ?_
        rw [operationLines_eq_listed] at hline
        obtain ⟨found, hfound, last, rfl⟩ := mem_listed hline
        exact lineCount_operation (hsignatures found hfound) last
      simp [lineCounts_block hother, hlines]

/-- The headers in the blocks of types. -/
theorem lineCounts_types {types : List (String × List EmittedField)}
    (hnames : ∀ type ∈ types, '\n' ∉ type.1.toList) :
    lineCounts (header name) (types.map typeLines).flatten =
      (types.map Prod.fst).count name +
        lineCounts (header name) (types.flatMap fun type => EmittedField.lines type.2) := by
  induction types with
  | nil => rfl
  | cons type rest ih =>
      obtain ⟨htype, hrest⟩ := List.forall_mem_cons.mp hnames
      simp only [List.map_cons, List.flatten_cons, List.flatMap_cons, lineCounts_append,
        List.count_cons, typeLines, lineCounts_block htype, beq_iff_eq]
      rw [ih hrest]
      omega

/-- The headers of a text: one for every type of the name, those behind breaks within the
lines of fields, and those of the blocks of operations. -/
theorem lineCount_header (hnames : ∀ type ∈ outline.types, '\n' ∉ type.1.toList)
    (hqueries : ∀ signature ∈ outline.queries, '\n' ∉ signature.toList)
    (hmutations : ∀ signature ∈ outline.mutations, '\n' ∉ signature.toList) (name : String) :
    lineCount (header name) outline.text =
      (outline.types.map Prod.fst).count name + outline.spilled name +
        (if "Query" = name ∧ outline.queries ≠ [] then 1 else 0) +
        (if "Mutation" = name ∧ outline.mutations ≠ [] then 1 else 0) := by
  have hpreamble : lineCount (header name) preamble = 0 := by
    rw [lineCount_of_not_mem (by decide), if_neg]
    intro heq
    have hchars := congrArg String.toList heq
    simp [header, preamble] at hchars
  have hend (body : String) : lineCount (header name) (body ++ "\n") =
      lineCount (header name) body := by
    rw [← String.append_empty (s := body ++ "\n"), lineCount_append_break,
      lineCount_empty (header_ne_empty name), Nat.add_zero]
  rw [text, hend, lineCount_blocks (header_ne_empty name), blocks, List.flatten_cons,
    List.flatten_append, List.flatten_append, lineCounts_append, lineCounts_append,
    lineCounts_append, lineCounts_cons, hpreamble, lineCounts_types hnames,
    lineCounts_operations (by decide) hqueries, lineCounts_operations (by decide) hmutations]
  unfold spilled lineCounts
  simp only [List.flatMap_nil, List.count_nil]
  omega

/-- Without breaks in the lines of fields nothing is spilled. -/
theorem spilled_eq_zero (hlines : ∀ type ∈ outline.types, ∀ field ∈ type.2,
    '\n' ∉ field.name.shown.toList ∧ '\n' ∉ field.typeName.toList) (name : String) :
    outline.spilled name = 0 := by
  refine lineCounts_eq_zero fun line hline => ?_
  obtain ⟨type, htype, hline⟩ := List.mem_flatMap.mp hline
  rw [lines_eq_listed] at hline
  obtain ⟨field, hfield, last, rfl⟩ := mem_listed hline
  obtain ⟨hname, htypeName⟩ := hlines type htype field hfield
  exact lineCount_field hname htypeName last

end Outline

/-- Emitted fields bear the names of declared ones. -/
theorem Entity.mem_names_of_emitted {entity : Entity} {emitted : EmittedField}
    (hemitted : emitted ∈ entity.typeDefinition.fields) : emitted.name ∈ entity.fields.names := by
  have hname : emitted.name ∈ entity.typeDefinition.fields.map EmittedField.name :=
    List.mem_map_of_mem hemitted
  rw [typeDefinition, FieldMap.names_fields_compile] at hname
  exact (List.filter_sublist.map fun field : Field => field.name).mem hname

namespace Registry

theorem operationNames_nodup (registry : Registry) : registry.operationNames.Nodup := by
  unfold operationNames
  split <;> split <;> decide

/-- The names of the types of a registry. -/
def typeNames (registry : Registry) : List String :=
  registry.entities.map Entity.typeName

variable {registry : Registry}

/-- Plain entities are named apart. -/
theorem typeNames_nodup (hplain : ∀ entity ∈ registry.entities, entity.Plain) :
    registry.typeNames.Nodup := by
  have hkeys : registry.entities.map Entity.key? =
      registry.typeNames.map fun name => some (.text name) := by
    rw [typeNames, List.map_map]
    refine List.map_congr_left fun entity hentity => ?_
    obtain ⟨text, hname, -⟩ := (hplain entity hentity).name
    simp only [Entity.key?, Entity.typeName, hname, Function.comp_apply]
    rfl
  have hnodup := registry.keys_nodup
  rw [hkeys] at hnodup
  exact List.Nodup.of_map _ hnodup

theorem signatures_of_plain (hplain : ∀ entity ∈ registry.entities, entity.Plain) :
    ∀ signature ∈ registry.signatures, signature.text?.isSome = true := by
  intro signature hsignature
  obtain ⟨entity, hentity, hmem⟩ := mem_signatures.mp hsignature
  obtain ⟨text, rfl, -⟩ := (hplain entity hentity).signatures signature hmem
  rfl

/-- Signatures of one kind are shown unless no entity has any. -/
theorem signatureTexts_eq_nil_iff {declared : CompiledEntity → List Value}
    (htexts : ∀ entity ∈ registry.entities, ∀ signature ∈ declared entity.compile,
      ∃ text, signature = .text text ∧ '\n' ∉ text.toList) :
    signatureTexts ((registry.entities.map Entity.compile).flatMap declared) = [] ↔
      ∀ entity ∈ registry.entities, declared entity.compile = [] := by
  have hsome : ∀ signature ∈ (registry.entities.map Entity.compile).flatMap declared,
      signature.text?.isSome = true := by
    intro signature hsignature
    obtain ⟨compiled, hcompiled, hsignature⟩ := List.mem_flatMap.mp hsignature
    obtain ⟨entity, hentity, rfl⟩ := List.mem_map.mp hcompiled
    obtain ⟨text, rfl, -⟩ := htexts entity hentity signature hsignature
    rfl
  rw [← List.isEmpty_iff, signatureTexts_isEmpty hsome, List.isEmpty_iff,
    List.flatMap_eq_nil_iff, List.forall_mem_map]

/-- The headers in the document of plain entities: one for every entity and every block of
operations of the name, and those behind breaks within the lines of fields. -/
theorem lineCount_header (hplain : ∀ entity ∈ registry.entities, entity.Plain) (name : String) :
    lineCount (Outline.header name) registry.outline.text =
      (registry.typeNames ++ registry.operationNames).count name +
        registry.outline.spilled name := by
  have hqueries : ∀ entity ∈ registry.entities, ∀ signature ∈ entity.compile.queries,
      ∃ text, signature = .text text ∧ '\n' ∉ text.toList :=
    fun entity hentity signature hsignature =>
      (hplain entity hentity).signatures signature (List.mem_append_left _ hsignature)
  have hmutations : ∀ entity ∈ registry.entities, ∀ signature ∈ entity.compile.mutations,
      ∃ text, signature = .text text ∧ '\n' ∉ text.toList :=
    fun entity hentity signature hsignature =>
      (hplain entity hentity).signatures signature (List.mem_append_right _ hsignature)
  have hnames : ∀ type ∈ registry.outline.types, '\n' ∉ type.1.toList := by
    intro type htype
    obtain ⟨compiled, hcompiled, rfl⟩ := List.mem_map.mp htype
    obtain ⟨entity, hentity, rfl⟩ := List.mem_map.mp hcompiled
    obtain ⟨text, hname, hidentifier⟩ := (hplain entity hentity).name
    have hshown : (entity.compile.definition.name, entity.compile.definition.fields).1 = text := by
      change entity.name.shown = text
      rw [hname]
      rfl
    rw [hshown]
    exact hidentifier.not_mem (by decide)
  have htypes : registry.outline.types.map Prod.fst = registry.typeNames := by
    simp only [outline, Outline.ofEntities, List.map_map]
    rfl
  have hshownQueries : registry.outline.queries = [] ↔
      ∀ entity ∈ registry.entities, entity.queries = [] := signatureTexts_eq_nil_iff hqueries
  have hshownMutations : registry.outline.mutations = [] ↔
      ∀ entity ∈ registry.entities, entity.mutations = [] := signatureTexts_eq_nil_iff hmutations
  rw [Outline.lineCount_header hnames
    (CompiledEntity.WellNamed.oneLine (List.forall_mem_map.mpr hqueries))
    (CompiledEntity.WellNamed.oneLine (List.forall_mem_map.mpr hmutations)), htypes,
    List.count_append]
  have hoperations : registry.operationNames.count name =
      (if "Query" = name ∧ registry.outline.queries ≠ [] then 1 else 0) +
        (if "Mutation" = name ∧ registry.outline.mutations ≠ [] then 1 else 0) := by
    simp only [operationNames, ← hshownQueries, ← hshownMutations, List.count_append]
    by_cases hquery : registry.outline.queries = [] <;>
      by_cases hmutation : registry.outline.mutations = [] <;>
        simp [hquery, hmutation, List.count_singleton]
  omega

end Registry

/-- Each type of a document is defined once, but for the blocks of operations.  Whatever a
registry has accepted, as long as names are identifiers and signatures stand on one line, it
has a document if its text has bytes, and a header stands in the text once for every entity
and every block of operations of the name, and wherever the type of a field spills one
behind a break.  Without such breaks there is no header twice exactly if no entity is named
as a block of operations that is there. -/
theorem types_defined_once (assembly : Assembly)
    (hplain : ∀ entity ∈ assembly.registry.entities, entity.Plain) :
    let text := assembly.registry.outline.text
    (∀ bytes, assembly.coding text = .ok bytes →
        ∃ built document, assembly.build = (built, .ok document) ∧ document.text = text) ∧
      (∀ message, assembly.coding text = .error message →
        assembly.build.2 = .error (.uncoded message)) ∧
      (∀ name, lineCount (Outline.header name) text =
        (assembly.registry.typeNames ++ assembly.registry.operationNames).count name +
          assembly.registry.outline.spilled name) ∧
      ((∀ entity ∈ assembly.registry.entities, ∀ field ∈ entity.typeDefinition.fields,
          '\n' ∉ field.typeName.toList) →
        ((∀ name, lineCount (Outline.header name) text ≤ 1) ↔
          ∀ name ∈ assembly.registry.operationNames, name ∉ assembly.registry.typeNames)) := by
  intro text
  have htexts := Registry.signatures_of_plain hplain
  have hanswer : assembly.build.2 = assembly.registry.document assembly.coding :=
    Assembly.buildWithin_answer assembly.depth assembly
  have hcount := Registry.lineCount_header hplain
  refine ⟨fun bytes hbytes => ?_, fun message hbytes => ?_, hcount, fun hbreaks => ?_⟩
  · obtain ⟨mark, hdocument⟩ := Registry.document_of_bytes htexts hbytes
    exact ⟨assembly.build.1, _, Prod.ext rfl (hanswer.trans hdocument), rfl⟩
  · exact hanswer.trans (Registry.document_of_no_bytes htexts hbytes)
  have hspilled (name : String) : assembly.registry.outline.spilled name = 0 := by
    refine Outline.spilled_eq_zero (fun type htype field hfield => ?_) name
    obtain ⟨compiled, hcompiled, rfl⟩ := List.mem_map.mp htype
    obtain ⟨entity, hentity, rfl⟩ := List.mem_map.mp hcompiled
    obtain ⟨chars, hname, hidentifier⟩ :=
      (hplain entity hentity).fields field.name (Entity.mem_names_of_emitted hfield)
    rw [hname]
    exact ⟨hidentifier.not_mem (by decide), hbreaks entity hentity field hfield⟩
  simp only [text, hcount, hspilled, Nat.add_zero]
  rw [← List.nodup_iff_count, List.nodup_append]
  constructor
  · rintro ⟨-, -, hapart⟩ name hoperation hentity
    exact hapart name hentity name hoperation rfl
  · intro hapart
    refine ⟨Registry.typeNames_nodup hplain, assembly.registry.operationNames_nodup, ?_⟩
    rintro name hentity _ hoperation rfl
    exact hapart name hoperation hentity

/-- An entity that is named as the block of queries is registered beside one that has a
query, and the document defines the type twice. -/
theorem types_defined_once_boardAndQuery :
    let board : Entity := ⟨.text "Board", ⟨[.plain "title"], List.pairwise_singleton _ _⟩,
      [.text "boards: [Board]"], [], .text "", by decide⟩
    let query : Entity := ⟨.text "Query", ⟨[.plain "version"], List.pairwise_singleton _ _⟩, [],
      [], .text "", by decide⟩
    let assembly := (Assembly.empty.registerAll [board, query]).1
    (Assembly.empty.registerAll [board, query]).2 = .ok () ∧
      (∀ entity ∈ assembly.registry.entities, entity.Plain) ∧
      ∃ built document, assembly.build = (built, .ok document) ∧
        lineCount (Outline.header "Board") document.text = 1 ∧
        lineCount (Outline.header "Query") document.text = 2 := by
  intro board query assembly
  have hentities : assembly.registry.entities = [board, query] := by decide +kernel
  have hplain : ∀ entity ∈ assembly.registry.entities, entity.Plain := by
    rw [hentities]
    rintro entity (_ | ⟨_, _ | ⟨_, hnone⟩⟩)
    · refine ⟨⟨"Board", rfl, by decide⟩, ?_, fun signature hsignature => ?_⟩
      · exact fun name hname => ⟨"title", List.mem_singleton.mp hname, by decide⟩
      · exact ⟨_, List.mem_singleton.mp hsignature, by decide⟩
    · refine ⟨⟨"Query", rfl, by decide⟩, ?_, fun signature hsignature => nomatch hsignature⟩
      exact fun name hname => ⟨"version", List.mem_singleton.mp hname, by decide⟩
    · cases hnone
  obtain ⟨hbuilt, -, hcount, -⟩ := types_defined_once assembly hplain
  obtain ⟨built, document, hbuild, htext⟩ := hbuilt _ rfl
  refine ⟨by decide +kernel, hplain, built, document, hbuild, ?_, ?_⟩
  · rw [htext, hcount]
    decide +kernel
  · rw [htext, hcount]
    decide +kernel

end Kanban
