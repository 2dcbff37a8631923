/-
The outline of a document.  A document shows types with their fields and signatures
of queries and mutations, laid out in blocks of lines.  Entities whose signatures are
texts have a document, and its text is the layout of their outline; as long as names
keep clear of the marks of the layout, the text tells the outline again.
-/
import Mathlib.Data.List.Basic
import Kanban.Proofs.Schema.TextSignatures
import Kanban.Proofs.Text.Blocks

namespace Kanban

/-- What a document shows: types with their fields, then queries and mutations. -/
@[ext]
structure Outline where
  types : List (String × List EmittedField)
  queries : List String
  mutations : List String
deriving DecidableEq

namespace Outline

/-- The outline of compiled entities. -/
def ofEntities (entities : List CompiledEntity) : Outline where
  types := entities.map fun entity => (entity.definition.name, entity.definition.fields)
  queries := signatureTexts (entities.flatMap CompiledEntity.queries)
  mutations := signatureTexts (entities.flatMap CompiledEntity.mutations)

def header (name : String) : String :=
  "type " ++ name ++ " \x7b"

/-- The lines of a named block. -/
def blockLines (name : String) (lines : List String) : List String :=
  header name :: (lines ++ ["\x7d"])

def typeLines (type : String × List EmittedField) : List String :=
  blockLines type.1 (EmittedField.lines type.2)

/-- The block of one kind of operation, left out when there are none. -/
def operations (name : String) (signatures : List String) : List (List String) :=
  if signatures.isEmpty then [] else [blockLines name (operationLines signatures)]

/-- The blocks of a document, each with its lines. -/
def blocks (outline : Outline) : List (List String) :=
  [preamble] :: (outline.types.map typeLines ++ (operations "Query" outline.queries ++
    operations "Mutation" outline.mutations))

/-- Lines one below the other, and blank lines between blocks. -/
def text (outline : Outline) : String :=
  "\n\n".intercalate (outline.blocks.map fun block => "\n".intercalate block) ++ "\n"

end Outline

section

variable {signatures : List Value} {entities : List CompiledEntity}

theorem signatureTexts_isEmpty
    (htexts : ∀ signature ∈ signatures, signature.text?.isSome = true) :
    (signatureTexts signatures).isEmpty = signatures.isEmpty := by
  cases signatures with
  | nil => rfl
  | cons signature rest =>
      cases signature with
      | text text => rfl
      | _ => cases htexts _ List.mem_cons_self

/-- The block of one kind of operation, or the first signature that is no text. -/
theorem operationBlock_eq (name : String) (signatures : List Value) :
    operationBlock name signatures = (signatures.find? Value.isWrong).elim
      (.ok ((Outline.operations name (signatureTexts signatures)).map
        fun block => "\n".intercalate block))
      fun value => .error ⟨value⟩ := by
  rw [operationBlock, asksText_signatureText.mapM_eq, ← signatureTexts_eq_map]
  cases hfind : signatures.find? Value.isWrong with
  | some value =>
      cases signatures with
      | nil => cases hfind
      | cons signature rest => rfl
  | none =>
      rw [Outline.operations, signatureTexts_isEmpty (find?_isWrong_eq_none_iff.mp hfind)]
      cases signatures.isEmpty <;> rfl

/-- The document of entities is laid out as their outline, unless some signature is no
text. -/
theorem renderDocument_eq (entities : List CompiledEntity) :
    renderDocument entities = ((entities.flatMap CompiledEntity.queries ++
      entities.flatMap CompiledEntity.mutations).find? Value.isWrong).elim
        (.ok (Outline.ofEntities entities).text) fun value => .error ⟨value⟩ := by
  have htypes : entities.map (fun entity => entity.definition.render) =
      ((Outline.ofEntities entities).types.map Outline.typeLines).map
        fun block => "\n".intercalate block := by
    simp only [Outline.ofEntities, List.map_map]
    rfl
  simp only [renderDocument, operationBlock_eq, htypes, List.find?_append]
  cases (entities.flatMap CompiledEntity.queries).find? Value.isWrong with
  | some value => rfl
  | none =>
      cases (entities.flatMap CompiledEntity.mutations).find? Value.isWrong with
      | some value => rfl
      | none =>
          unfold Outline.text Outline.blocks
          rw [List.map_cons, List.map_append, List.map_append, ← List.append_assoc,
            String.intercalate_singleton]
          rfl

/-- Entities whose signatures are texts are rendered as their outline. -/
theorem renderDocument_of_texts
    (htexts : ∀ entity ∈ entities, ∀ signature ∈ entity.queries ++ entity.mutations,
      signature.text?.isSome = true) :
    renderDocument entities = .ok (Outline.ofEntities entities).text := by
  have hright : (entities.flatMap CompiledEntity.queries ++
      entities.flatMap CompiledEntity.mutations).find? Value.isWrong = none := by
    rw [find?_isWrong_eq_none_iff]
    intro signature hmem
    rcases List.mem_append.mp hmem with hquery | hmutation
    · obtain ⟨entity, hentity, hquery⟩ := List.mem_flatMap.mp hquery
      exact htexts entity hentity signature (List.mem_append_left _ hquery)
    · obtain ⟨entity, hentity, hmutation⟩ := List.mem_flatMap.mp hmutation
      exact htexts entity hentity signature (List.mem_append_right _ hmutation)
  rw [renderDocument_eq, hright, Option.elim_none]

end

/-- Lines made of a list, each told whether it is the last. -/
def listed {A : Type} (line : A → Bool → String) : List A → List String
  | [] => []
  | [x] => [line x true]
  | x :: rest => line x false :: listed line rest

theorem listed_cons_cons {A : Type} (line : A → Bool → String) (x y : A) (rest : List A) :
    listed line (x :: y :: rest) = line x false :: listed line (y :: rest) :=
  rfl

theorem lines_eq_listed (fields : List EmittedField) :
    EmittedField.lines fields = listed EmittedField.line fields := by
  induction fields with
  | nil => rfl
  | cons field rest ih =>
      cases rest with
      | nil => rfl
      | cons next rest =>
          rw [listed_cons_cons, ← ih]
          rfl

/-- The line of a signature; every line but the last ends in a comma. -/
def operationLine (signature : String) (last : Bool) : String :=
  indentation ++ signature ++ if last then "" else ","

theorem operationLines_eq_listed (signatures : List String) :
    operationLines signatures = listed operationLine signatures := by
  induction signatures with
  | nil => rfl
  | cons signature rest ih =>
      cases rest with
      | nil => simp [operationLines, listed, operationLine]
      | cons next rest =>
          rw [listed_cons_cons, ← ih]
          rfl

section

variable {A : Type} {line : A → Bool → String} {xs ys : List A}

theorem length_listed (line : A → Bool → String) (xs : List A) :
    (listed line xs).length = xs.length := by
  induction xs with
  | nil => rfl
  | cons x rest ih =>
      cases rest with
      | nil => rfl
      | cons next rest => rw [listed_cons_cons, List.length_cons, ih]; rfl

theorem mem_listed {text : String} (htext : text ∈ listed line xs) :
    ∃ x ∈ xs, ∃ last, text = line x last := by
  induction xs with
  | nil => cases htext
  | cons x rest ih =>
      cases rest with
      | nil => exact ⟨x, List.mem_cons_self, true, List.mem_singleton.mp htext⟩
      | cons next rest =>
          rcases List.mem_cons.mp (listed_cons_cons line x next rest ▸ htext) with rfl | hrest
          · exact ⟨x, List.mem_cons_self, false, rfl⟩
          · obtain ⟨found, hfound, hline⟩ := ih hrest
            exact ⟨found, List.mem_cons_of_mem x hfound, hline⟩

/-- Lines tell what they were made of, if each of them does. -/
theorem listed_inj (hline : ∀ x ∈ xs, ∀ y ∈ ys, ∀ last, line x last = line y last → x = y)
    (hlisted : listed line xs = listed line ys) : xs = ys := by
  have hlength : xs.length = ys.length := by
    rw [← length_listed line xs, hlisted, length_listed]
  induction xs generalizing ys with
  | nil => exact (List.length_eq_zero_iff.mp hlength.symm).symm
  | cons x rest ih =>
      obtain ⟨y, others, rfl⟩ := List.exists_cons_of_length_eq_add_one hlength.symm
      have hfirst := hline x List.mem_cons_self y List.mem_cons_self
      cases rest with
      | nil =>
          obtain rfl := List.length_eq_zero_iff.mp (Nat.succ.inj hlength).symm
          rw [hfirst true (List.singleton_inj.mp hlisted)]
      | cons next rest =>
          obtain ⟨other, others, rfl⟩ :=
            List.exists_cons_of_length_eq_add_one (Nat.succ.inj hlength).symm
          rw [listed_cons_cons, listed_cons_cons] at hlisted
          obtain ⟨hhead, htail⟩ := List.cons.inj hlisted
          rw [hfirst false hhead, ih (fun x hx y hy => hline x (List.mem_cons_of_mem _ hx) y
            (List.mem_cons_of_mem _ hy)) htail (Nat.succ.inj hlength)]

end

theorem map_inj_of_mem {A B : Type} {f : A → B} {xs ys : List A}
    (hf : ∀ x ∈ xs, ∀ y ∈ ys, f x = f y → x = y) (hmap : xs.map f = ys.map f) : xs = ys := by
  induction xs generalizing ys with
  | nil => exact (List.map_eq_nil_iff.mp hmap.symm).symm
  | cons x rest ih =>
      cases ys with
      | nil => cases hmap
      | cons y others =>
          obtain ⟨hfirst, hrest⟩ := List.cons.inj hmap
          rw [hf x List.mem_cons_self y List.mem_cons_self hfirst, ih (fun x hx y hy =>
            hf x (List.mem_cons_of_mem _ hx) y (List.mem_cons_of_mem _ hy)) hrest]

/-- Up to the first mark both sides are the same, and so are their rests. -/
theorem append_mark_inj {A : Type} {mark : A} {xs ys restx resty : List A} (hx : mark ∉ xs)
    (hy : mark ∉ ys) (heq : xs ++ mark :: restx = ys ++ mark :: resty) :
    xs = ys ∧ restx = resty := by
  induction xs generalizing ys with
  | nil =>
      cases ys with
      | nil => exact ⟨rfl, (List.cons.inj heq).2⟩
      | cons y ys => exact absurd (List.cons.inj heq).1 fun h => hy (h ▸ List.mem_cons_self)
  | cons x xs ih =>
      cases ys with
      | nil => exact absurd (List.cons.inj heq).1 fun h => hx (h ▸ List.mem_cons_self)
      | cons y ys =>
          obtain ⟨rfl, hrest⟩ := List.cons.inj heq
          obtain ⟨rfl, hrests⟩ := ih (fun h => hx (List.mem_cons_of_mem _ h))
            (fun h => hy (List.mem_cons_of_mem _ h)) hrest
          exact ⟨rfl, hrests⟩

/-- The mark of a required field is told from a type without it. -/
theorem required_inj {typeName other : String} {required required' : Bool}
    (htype : '!' ∉ typeName.toList) (hother : '!' ∉ other.toList)
    (heq : typeName ++ (if required then "!" else "") =
      other ++ (if required' then "!" else "")) : typeName = other ∧ required = required' := by
  have hmark {text : String} (flag : Bool) (htext : '!' ∉ text.toList) :
      '!' ∈ (text ++ if flag then "!" else "").toList ↔ flag = true := by
    cases flag <;> simp [htext]
  have hsame : required = required' := by
    rw [Bool.eq_iff_iff, ← hmark required htype, heq, hmark required' hother]
  subst hsame
  exact ⟨(String.append_left_inj _).mp heq, rfl⟩

/-- A field whose name is a text and keeps clear of the marks of a line, as its type
does. -/
structure EmittedField.Legible (field : EmittedField) : Prop where
  name : ∃ text : String, field.name = .text text ∧ ':' ∉ text.toList ∧ '\n' ∉ text.toList
  typeName : '!' ∉ field.typeName.toList ∧ '\n' ∉ field.typeName.toList

theorem EmittedField.Legible.inj {f g : EmittedField} (hf : f.Legible) (hg : g.Legible)
    {last : Bool} (hline : f.line last = g.line last) : f = g := by
  obtain ⟨_, typeName, required⟩ := f
  obtain ⟨_, typeName', required'⟩ := g
  obtain ⟨name, rfl, hname, -⟩ := hf.name
  obtain ⟨name', rfl, hname', -⟩ := hg.name
  have hmarked : name.toList ++ ':' :: ' ' :: (typeName ++ if required then "!" else "").toList =
      name'.toList ++ ':' :: ' ' :: (typeName' ++ if required' then "!" else "").toList := by
    unfold EmittedField.line at hline
    rw [String.append_left_inj] at hline
    have hchars := congrArg String.toList hline
    simpa [indentation, Key.shown] using hchars
  obtain ⟨hsame, htype⟩ := append_mark_inj hname hname' hmarked
  obtain rfl : name = name' := String.toList_inj.mp hsame
  obtain ⟨htypeName, hrequired⟩ := required_inj hf.typeName.1 hg.typeName.1
    (String.toList_inj.mp (List.cons.inj htype).2)
  rw [EmittedField.mk.injEq]
  exact ⟨rfl, htypeName, hrequired⟩

namespace Outline

/-- An outline whose names and signatures keep clear of the marks of the layout, and
whose types are not named as the blocks of operations are. -/
structure Legible (outline : Outline) : Prop where
  names : ∀ type ∈ outline.types,
    '\n' ∉ type.1.toList ∧ type.1 ≠ "Query" ∧ type.1 ≠ "Mutation"
  fields : ∀ type ∈ outline.types, ∀ field ∈ type.2, field.Legible
  queries : ∀ signature ∈ outline.queries, '\n' ∉ signature.toList
  mutations : ∀ signature ∈ outline.mutations, '\n' ∉ signature.toList

variable {outline other : Outline} {name : String} {signatures : List String}

theorem header_inj {name other : String} (heq : header name = header other) : name = other := by
  have hchars := congrArg String.toList heq
  exact String.toList_inj.mp (by simpa [header] using hchars)

/-- Types are told by their blocks. -/
theorem typeLines_inj {type type' : String × List EmittedField}
    (hfields : ∀ field ∈ type.2, field.Legible) (hfields' : ∀ field ∈ type'.2, field.Legible)
    (heq : typeLines type = typeLines type') : type = type' := by
  obtain ⟨hheader, hlines⟩ := List.cons.inj heq
  rw [List.append_cancel_right_eq, lines_eq_listed, lines_eq_listed] at hlines
  refine Prod.ext (header_inj hheader) (listed_inj ?_ hlines)
  intro f hf g hg last hline
  exact (hfields f hf).inj (hfields' g hg) hline

/-- Signatures are told by their block. -/
theorem operations_inj {others : List String}
    (heq : operations name signatures = operations name others) : signatures = others := by
  have hline (x y : String) (last : Bool) (hsame : operationLine x last = operationLine y last) :
      x = y := by
    simpa [operationLine] using hsame
  unfold operations at heq
  cases signatures <;> cases others <;> simp [blockLines, operationLines_eq_listed] at heq ⊢
  exact List.cons.inj (listed_inj (fun x _ y _ => hline x y) heq)

/-- Whether a block is headed by a name. -/
def isHeaded (name : String) (block : List String) : Bool :=
  decide (block.head? = some (header name))

theorem isHeaded_blockLines {other : String} {lines : List String} :
    isHeaded name (blockLines other lines) = decide (other = name) := by
  unfold isHeaded
  refine decide_eq_decide.mpr ⟨fun hhead => header_inj (Option.some.inj hhead), ?_⟩
  rintro rfl
  rfl

theorem filter_operations_self :
    (operations name signatures).filter (isHeaded name) = operations name signatures := by
  unfold operations
  cases signatures <;> simp [isHeaded_blockLines]

theorem filter_operations_of_ne {other : String} (hne : name ≠ other) :
    (operations name signatures).filter (isHeaded other) = [] := by
  unfold operations
  cases signatures <;> simp [isHeaded_blockLines, hne]

theorem Legible.filter_types (houtline : outline.Legible)
    (hname : name = "Query" ∨ name = "Mutation") :
    (outline.types.map typeLines).filter (isHeaded name) = [] := by
  rw [List.filter_eq_nil_iff]
  intro block hblock
  obtain ⟨type, htype, rfl⟩ := List.mem_map.mp hblock
  obtain ⟨-, hquery, hmutation⟩ := houtline.names type htype
  rw [typeLines, isHeaded_blockLines, decide_eq_true_eq]
  rcases hname with rfl | rfl
  · exact hquery
  · exact hmutation

/-- The blocks of an outline that its text is to tell. -/
theorem Legible.blocks_inj (houtline : outline.Legible) (hother : other.Legible)
    (heq : outline.blocks = other.blocks) : outline = other := by
  have hrest := (List.cons.inj heq).2
  -- The headers of operations occur at no type.
  have hqueries := congrArg (List.filter (isHeaded "Query")) hrest
  have hmutations := congrArg (List.filter (isHeaded "Mutation")) hrest
  simp only [List.filter_append, houtline.filter_types, hother.filter_types, true_or, or_true,
    filter_operations_self, List.nil_append,
    filter_operations_of_ne (show "Mutation" ≠ "Query" by decide),
    filter_operations_of_ne (show "Query" ≠ "Mutation" by decide), List.append_nil]
    at hqueries hmutations
  rw [hqueries, hmutations, List.append_cancel_right_eq] at hrest
  refine Outline.ext (map_inj_of_mem ?_ hrest) (operations_inj hqueries)
    (operations_inj hmutations)
  intro type htype type' htype' hlines
  exact typeLines_inj (houtline.fields type htype) (hother.fields type' htype') hlines

/-- The characters of the blocks. -/
def chars (outline : Outline) : List (List (List Char)) :=
  outline.blocks.map fun block => block.map String.toList

theorem toList_text (outline : Outline) : outline.text.toList =
    ['\n', '\n'].intercalate (outline.chars.map fun block => ['\n'].intercalate block) ++
      ['\n'] := by
  simp [text, chars, String.toList_intercalate, Function.comp_def]

/-- A line of the layout: it is not empty and holds no break. -/
def IsLine (line : String) : Prop :=
  line.toList ≠ [] ∧ '\n' ∉ line.toList

theorem isLine_header (hname : '\n' ∉ name.toList) : IsLine (header name) := by
  simp [IsLine, header, hname]

theorem isLine_field {field : EmittedField} (hfield : field.Legible) (last : Bool) :
    IsLine (field.line last) := by
  obtain ⟨name, htext, -, hname⟩ := hfield.name
  have htype := hfield.typeName.2
  unfold IsLine EmittedField.line indentation
  rw [htext, Key.shown]
  cases field.required <;> cases last <;> simp [hname, htype]

theorem isLine_operation {signature : String} (hsignature : '\n' ∉ signature.toList)
    (last : Bool) : IsLine (operationLine signature last) := by
  unfold IsLine operationLine indentation
  cases last <;> simp [hsignature]

theorem isLine_of_mem_blockLines {lines : List String} (hname : '\n' ∉ name.toList)
    (hlines : ∀ line ∈ lines, IsLine line) : ∀ line ∈ blockLines name lines, IsLine line := by
  intro line hline
  rcases List.mem_cons.mp hline with rfl | hline
  · exact isLine_header hname
  · rcases List.mem_append.mp hline with hline | hline
    · exact hlines line hline
    · obtain rfl := List.mem_singleton.mp hline
      exact ⟨by decide, by decide⟩

theorem isLine_of_mem_operations (hname : '\n' ∉ name.toList)
    (hsignatures : ∀ signature ∈ signatures, '\n' ∉ signature.toList) :
    ∀ block ∈ operations name signatures, ∀ line ∈ block, IsLine line := by
  intro block hblock
  unfold operations at hblock
  split at hblock
  · cases hblock
  · obtain rfl := List.mem_singleton.mp hblock
    refine isLine_of_mem_blockLines hname fun line hline => ?_
    rw [operationLines_eq_listed] at hline
    obtain ⟨signature, hsignature, last, rfl⟩ := mem_listed hline
    exact isLine_operation (hsignatures signature hsignature) last

theorem Legible.isLine (houtline : outline.Legible) :
    ∀ block ∈ outline.blocks, ∀ line ∈ block, IsLine line := by
  intro block hblock
  rcases List.mem_cons.mp hblock with rfl | hblock
  · intro line hline
    obtain rfl := List.mem_singleton.mp hline
    exact ⟨by decide, by decide⟩
  · rcases List.mem_append.mp hblock with hblock | hblock
    · obtain ⟨type, htype, rfl⟩ := List.mem_map.mp hblock
      refine isLine_of_mem_blockLines (houtline.names type htype).1 fun line hline => ?_
      rw [lines_eq_listed] at hline
      obtain ⟨field, hfield, last, rfl⟩ := mem_listed hline
      exact isLine_field (houtline.fields type htype field hfield) last
    · rcases List.mem_append.mp hblock with hblock | hblock
      · exact isLine_of_mem_operations (by decide) houtline.queries block hblock
      · exact isLine_of_mem_operations (by decide) houtline.mutations block hblock

theorem ne_nil_of_mem_blocks : ∀ block ∈ outline.blocks, block ≠ [] := by
  have hoperations (name : String) (signatures : List String) :
      ∀ block ∈ operations name signatures, block ≠ [] := by
    unfold operations
    cases signatures <;> simp [blockLines]
  intro block hblock
  rcases List.mem_cons.mp hblock with rfl | hblock
  · exact List.cons_ne_nil _ _
  · rcases List.mem_append.mp hblock with hblock | hblock
    · obtain ⟨type, -, rfl⟩ := List.mem_map.mp hblock
      exact List.cons_ne_nil _ _
    · rcases List.mem_append.mp hblock with hblock | hblock
      · exact hoperations _ _ block hblock
      · exact hoperations _ _ block hblock

theorem Legible.separable (houtline : outline.Legible) : Separable '\n' outline.chars where
  filled := by
    intro chars hchars
    obtain ⟨block, hblock, rfl⟩ := List.mem_map.mp hchars
    exact fun hnil => ne_nil_of_mem_blocks block hblock (List.map_eq_nil_iff.mp hnil)
  lines := by
    intro chars hchars line hline
    obtain ⟨block, hblock, rfl⟩ := List.mem_map.mp hchars
    obtain ⟨text, htext, rfl⟩ := List.mem_map.mp hline
    exact houtline.isLine block hblock text htext

/-- The text of a legible outline tells the outline. -/
theorem Legible.text_inj (houtline : outline.Legible) (hother : other.Legible)
    (heq : outline.text = other.text) : outline = other := by
  have hchars := congrArg String.toList heq
  rw [toList_text, toList_text, List.append_cancel_right_eq] at hchars
  have hblocks := houtline.separable.inj hother.separable (by simp [chars, blocks])
    (by simp [chars, blocks]) hchars
  refine houtline.blocks_inj hother ?_
  have hlines : Function.Injective (List.map String.toList) :=
    List.map_injective_iff.mpr fun _ _ => String.toList_inj.mp
  exact List.map_injective_iff.mpr hlines hblocks

end Outline

end Kanban
