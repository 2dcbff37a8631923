/-
Formats of a declaration document.  Entities are listed, or stand under their names in a
map, and either may be held under a key of the document; the fields of an entity are listed
or stand under their names as well.  A declaration is read by looking keys up, so it does
not matter whether it carries its name along or is given it, nor where.
-/
import Mathlib.Data.List.Nodup
import Mathlib.Data.List.Basic
import Kanban.Proofs.Schema.EntitySpelling

namespace Kanban

section

variable {A K : Type} [DecidableEq K] {key : K} {entries : Mapping A K}

/-- The entries of the other keys. -/
def Mapping.without (key : K) (entries : Mapping A K) : Mapping A K :=
  entries.filter fun entry => decide (entry.1 ≠ key)

theorem Mapping.get?_without_of_ne {other : K} (hne : other ≠ key) (entries : Mapping A K) :
    Mapping.get? other (Mapping.without key entries) = Mapping.get? other entries := by
  induction entries with
  | nil => rfl
  | cons entry rest ih =>
      unfold Mapping.without at ih ⊢
      by_cases hkey : entry.1 = key
      · have hother : entry.1 ≠ other := fun h => hne (h.symm.trans hkey)
        rw [List.filter_cons_of_neg (by simpa using hkey), ih, Mapping.get?, if_neg hother]
      · rw [List.filter_cons_of_pos (by simpa using hkey), Mapping.get?, Mapping.get?, ih]

theorem Mapping.keys_without_nodup (hnodup : entries.keys.Nodup) (key : K) :
    (Mapping.keys (Mapping.without key entries)).Nodup :=
  hnodup.sublist (List.filter_sublist.map Prod.fst)

theorem Mapping.not_mem_keys_without (key : K) (entries : Mapping A K) :
    key ∉ Mapping.keys (Mapping.without key entries) := by
  intro hmem
  obtain ⟨entry, hentry, hkey⟩ := List.mem_map.mp hmem
  exact of_decide_eq_true (List.mem_filter.mp hentry).2 hkey

end

/-- A map of declarations that carries a name. -/
structure NamedDeclaration where
  name : String
  entries : Entries
  keys_nodup : entries.keys.Nodup
  name_eq : Mapping.get? (.text "name") entries = some (.text name)

namespace NamedDeclaration

variable {declarations : List NamedDeclaration}

/-- What is declared under the name. -/
def body (declaration : NamedDeclaration) : Entries :=
  Mapping.without (.text "name") declaration.entries

/-- Declarations one after the other. -/
def listed (declarations : List NamedDeclaration) : Value :=
  .list (declarations.map fun declaration => .map declaration.entries)

/-- Declarations under their names, each as it is or without its name. -/
def byName (entries : NamedDeclaration → Entries) (declarations : List NamedDeclaration) :
    Value :=
  .map (Mapping.ofPairs (declarations.map fun declaration =>
    (Key.text declaration.name, .map (entries declaration))))

/-- The documents that make the same declarations: a list or a map by name, either by itself
or under a key. -/
def formats (declarations : List NamedDeclaration) : List Value :=
  [listed declarations, .map [("entities", listed declarations)],
    byName body declarations, .map [("entities", byName body declarations)]]

/-- The values that declare the same fields: a list, or a map by name in which a declaration
may keep its name. -/
def fieldFormats (declarations : List NamedDeclaration) : List Value :=
  [listed declarations, byName entries declarations, byName body declarations]

theorem byName_eq (entries : NamedDeclaration → Entries)
    (hdistinct : (declarations.map name).Nodup) :
    byName entries declarations = .map (declarations.map fun declaration =>
      (.text declaration.name, .map (entries declaration))) := by
  have hkeys : (Mapping.keys (declarations.map fun declaration =>
      (Key.text declaration.name, Value.map (entries declaration)))).Nodup := by
    have hnames : ((declarations.map name).map Key.text).Nodup :=
      hdistinct.map fun _ _ => Key.text.inj
    rw [List.map_map] at hnames
    simpa [Mapping.keys, Function.comp_def] using hnames
  rw [byName, Mapping.ofPairs_of_nodup hkeys]

/-- The declaration with its name put first. -/
def renamed (declaration : NamedDeclaration) : Entries :=
  Mapping.setAll [("name", .text declaration.name)] declaration.body

/-- A declaration says the same when it is given its name. -/
theorem get?_renamed (declaration : NamedDeclaration) (key : Key) :
    Mapping.get? key declaration.renamed = Mapping.get? key declaration.entries := by
  have hkeys : (Mapping.keys ([(.text "name", .text declaration.name)] ++
      declaration.body)).Nodup :=
    List.nodup_cons.mpr ⟨Mapping.not_mem_keys_without (.text "name") declaration.entries,
      Mapping.keys_without_nodup declaration.keys_nodup (.text "name")⟩
  rw [renamed, Mapping.setAll_of_nodup hkeys, List.singleton_append, Mapping.get?]
  by_cases hname : .text "name" = key
  · rw [if_pos hname, ← hname, declaration.name_eq]
  · rw [if_neg hname, body, Mapping.get?_without_of_ne (Ne.symm hname)]

end NamedDeclaration

namespace Field

/-- A name that a declaration carries says nothing about the field. -/
theorem ofValue_without_name (name : Key) (entries : Entries) :
    ofValue name (.map (Mapping.without (.text "name") entries)) = ofValue name (.map entries) := by
  have hget {key : Key} (hkey : key ≠ .text "name") :
      Mapping.get? key (Mapping.without (.text "name") entries) = Mapping.get? key entries :=
    Mapping.get?_without_of_ne hkey entries
  simp [ofValue, factsOf, either?, flag, itemsOf_eq, propertiesOf_eq, hget]

theorem fieldsOf_eq_map (entries : Entries) :
    fieldsOf entries = entries.map fun entry => ofValue entry.1 entry.2 := by
  induction entries with
  | nil => rfl
  | cons entry rest ih => rw [fieldsOf, ih, List.map_cons]

end Field

namespace Entity

open NamedDeclaration (listed byName body)

section

variable {fields : List NamedDeclaration}

/-- The fields that declarations stand for. -/
def namedFields (fields : List NamedDeclaration) : List Field :=
  fields.map fun field => .ofValue (.text field.name) (.map field.entries)

theorem declaredFields?_listed (hnames : "" ∉ fields.map NamedDeclaration.name) :
    declaredFields? (some (listed fields)) = .ok (namedFields fields) := by
  have hlisted : (fields.map fun field => Value.map field.entries).filterMap listed? =
      fields.map fun field => (.text field.name, field.entries) := by
    rw [List.filterMap_map, List.filterMap_eq_map_iff_forall_eq_some]
    intro field hfield
    have hname : field.name ≠ "" := fun hempty =>
      hnames (List.mem_map.mpr ⟨field, hfield, hempty⟩)
    simp [listed?, field.name_eq, Value.truthy, Option.filter, hname]
  have hread : declaredFields? (some (listed fields)) =
      ((fields.map fun field => Value.map field.entries).filterMap listed?).mapM listedField := by
    have hitems : declaredFields? (some (listed fields)) =
        Value.elementsIfGiven? (some (listed fields)) >>= fun items =>
          (items.filterMap listed?).mapM listedField :=
      rfl
    rw [hitems, listed, Value.elementsIfGiven?_list]
    rfl
  have hfield (field : NamedDeclaration) :
      listedField (.text field.name, field.entries) =
        .ok (.ofValue (.text field.name) (.map field.entries)) :=
    rfl
  rw [hread, hlisted]
  exact mapM_map_ok hfield fields

theorem declaredFields?_byName (hdistinct : (fields.map NamedDeclaration.name).Nodup)
    (entries : NamedDeclaration → Entries) (hentries : ∀ field : NamedDeclaration,
      Field.ofValue (.text field.name) (.map (entries field)) =
        .ofValue (.text field.name) (.map field.entries)) :
    declaredFields? (some (byName entries fields)) = .ok (namedFields fields) := by
  rw [NamedDeclaration.byName_eq entries hdistinct, declaredFields?, Field.fieldsOf_eq_map,
    List.map_map]
  exact congrArg (fun step => Except.ok (fields.map step)) (funext hentries)

/-- Only what is read of the fields counts. -/
theorem ofValue?_set_fields {value other : Value}
    (hsame : declaredFields? (some value) = declaredFields? (some other))
    (entries : Entries) :
    ofValue? (.map (Mapping.set (.text "fields") value entries)) =
      ofValue? (.map (Mapping.set (.text "fields") other entries)) := by
  have hrest (found : Value) {key : Key} (hkey : key ≠ .text "fields") :
      Mapping.get? key (Mapping.set (.text "fields") found entries) = Mapping.get? key entries :=
    Mapping.get?_set_of_ne hkey found entries
  simp [ofValue?, nameOf?, fieldsOf?, Mapping.get?_set_self, hrest, hsame]

end

section

variable {declared : List NamedDeclaration}

/-- Only what is found under a key counts. -/
theorem ofValue?_congr {entries others : Entries}
    (hsame : ∀ key, Mapping.get? key entries = Mapping.get? key others) :
    ofValue? (.map entries) = ofValue? (.map others) := by
  simp only [ofValue?, nameOf?, hsame]

/-- Entities are read alike from any forms in which the same is found under each key. -/
theorem readAll?_of_forms {document : Value} {form : NamedDeclaration → Entries}
    (hread : declaredList? document = .ok (declared.map fun declaration => .map (form declaration)))
    (hform : ∀ (declaration : NamedDeclaration) (key : Key),
      Mapping.get? key (form declaration) = Mapping.get? key declaration.entries) :
    readAll? document = declared.mapM fun declaration => ofValue? (.map declaration.entries) := by
  have hentities : readAll? document =
      (declared.map fun declaration => .map (form declaration)).mapM ofValue? := by
    rw [readAll?, hread]
    rfl
  rw [hentities, List.mapM_map]
  exact congrArg (fun step => declared.mapM step)
    (funext fun declaration => ofValue?_congr (hform declaration))

theorem declaredList?_under_key {pairs : Entries} (hkey : .text "entities" ∉ pairs.keys) :
    declaredList? (.map [("entities", .map pairs)]) = declaredList? (.map pairs) := by
  have hnone : Mapping.get? (.text "entities") pairs = none := Mapping.get?_eq_none_iff.mpr hkey
  simp only [declaredList?, hnone]
  rfl

theorem declaredList?_byName (hdistinct : (declared.map NamedDeclaration.name).Nodup) :
    declaredList? (.map [("entities", byName body declared)]) =
      .ok (declared.map fun declaration => .map declaration.renamed) := by
  rw [NamedDeclaration.byName_eq body hdistinct]
  refine mapM_map_ok (fun declaration => ?_) declared
  rw [NamedDeclaration.renamed]
  cases declaration.body with
  | nil => rfl
  | cons entry rest => rfl

theorem readAll?_of_mem_formats (hdistinct : (declared.map NamedDeclaration.name).Nodup)
    (hkey : "entities" ∉ declared.map NamedDeclaration.name) {document : Value}
    (hdocument : document ∈ NamedDeclaration.formats declared) :
    readAll? document = declared.mapM fun declaration => ofValue? (.map declaration.entries) := by
  have hlist : readAll? (listed declared) =
      declared.mapM fun declaration => ofValue? (.map declaration.entries) :=
    readAll?_of_forms (Value.elementsIfGiven?_list _) fun _ _ => rfl
  have hnested : readAll? (.map [("entities", byName body declared)]) =
      declared.mapM fun declaration => ofValue? (.map declaration.entries) :=
    readAll?_of_forms (declaredList?_byName hdistinct) NamedDeclaration.get?_renamed
  have hkeys : .text "entities" ∉ Mapping.keys (declared.map fun declaration =>
      (Key.text declaration.name, Value.map declaration.body)) := by
    simpa [Mapping.keys] using hkey
  simp only [NamedDeclaration.formats, List.mem_cons, List.not_mem_nil, or_false] at hdocument
  rcases hdocument with rfl | rfl | rfl | rfl
  · exact hlist
  · exact hlist
  · rw [← hnested, readAll?, readAll?, NamedDeclaration.byName_eq body hdistinct,
      declaredList?_under_key hkeys]
  · exact hnested

end

theorem declaredFields?_of_mem_fieldFormats {fields : List NamedDeclaration}
    (hdistinct : (fields.map NamedDeclaration.name).Nodup)
    (hnames : "" ∉ fields.map NamedDeclaration.name) {value : Value}
    (hvalue : value ∈ NamedDeclaration.fieldFormats fields) :
    declaredFields? (some value) = .ok (namedFields fields) := by
  simp only [NamedDeclaration.fieldFormats, List.mem_cons, List.not_mem_nil, or_false] at hvalue
  rcases hvalue with rfl | rfl | rfl
  · exact declaredFields?_listed hnames
  · exact declaredFields?_byName hdistinct NamedDeclaration.entries fun _ => rfl
  · exact declaredFields?_byName hdistinct body
      fun field => Field.ofValue_without_name (.text field.name) field.entries

/-- Documents of all formats are read as the entities that are declared, in turn, or fail as
the first of these that fails.  In any entity, fields that are declared in any of their
formats are read as the fields that are declared, and the entity or its failure is the same. -/
theorem formats_agree (declared : List NamedDeclaration)
    (hdistinct : (declared.map NamedDeclaration.name).Nodup)
    (hkey : "entities" ∉ declared.map NamedDeclaration.name) :
    (∀ document ∈ NamedDeclaration.formats declared, readAll? document =
      declared.mapM fun declaration => ofValue? (.map declaration.entries)) ∧
    ∀ (entries : Entries) (fields : List NamedDeclaration),
      (fields.map NamedDeclaration.name).Nodup → "" ∉ fields.map NamedDeclaration.name →
      ∀ value ∈ NamedDeclaration.fieldFormats fields,
        declaredFields? (some value) = .ok (namedFields fields) ∧
        ofValue? (.map (Mapping.set (.text "fields") value entries)) =
          ofValue? (.map (Mapping.set (.text "fields") (listed fields) entries)) := by
  refine ⟨fun document hdocument => readAll?_of_mem_formats hdistinct hkey hdocument, ?_⟩
  intro entries fields hdistinct hnames value hvalue
  have hread := declaredFields?_of_mem_fieldFormats hdistinct hnames hvalue
  have hlist := declaredFields?_listed hnames
  exact ⟨hread, ofValue?_set_fields (hread.trans hlist.symm) entries⟩

/-- A sheet that names itself last, and its first column. -/
def sheetDeclaration : NamedDeclaration :=
  ⟨"Sheet", [("queries", .text "s"), ("fields", .map [("title", .text "string")]),
    ("name", .text "Sheet")], by decide, rfl⟩

def titleDeclaration : NamedDeclaration :=
  ⟨"title", [("required", .bool true), ("name", .text "title")], by decide, rfl⟩

/-- A sheet and an entity of which nothing but the name is said, by name and in all formats,
and a sheet whose fields are declared anew. -/
theorem formats_agree_sheets :
    let stub : NamedDeclaration := ⟨"Stub", [("name", .text "Stub")], by decide, rfl⟩
    let declared := [sheetDeclaration, stub]
    let document : Value := .map [("Sheet", .map [("queries", .text "s"),
      ("fields", .map [("title", .text "string")])]), ("Stub", .map [])]
    let sheet (title : Field) : Entity :=
      ⟨.text "Sheet", ⟨[title], List.pairwise_singleton _ _⟩, [.text "s"], [], .text "", by decide⟩
    let sheets : List Entity :=
      [sheet (.plain "title"), ⟨.text "Stub", .empty, [], [], .text "", by decide⟩]
    let withFields (value : Value) : Value :=
      .map [("queries", .text "s"), ("fields", value), ("name", .text "Sheet")]
    (declared.map NamedDeclaration.name).Nodup ∧
      "entities" ∉ declared.map NamedDeclaration.name ∧
      document ∈ NamedDeclaration.formats declared ∧
      (∀ written ∈ NamedDeclaration.formats declared, readAll? written = .ok sheets) ∧
      ([titleDeclaration].map NamedDeclaration.name).Nodup ∧
      "" ∉ [titleDeclaration].map NamedDeclaration.name ∧
      .map [("title", .map [("required", .bool true)])] ∈
        NamedDeclaration.fieldFormats [titleDeclaration] ∧
      ∀ value ∈ NamedDeclaration.fieldFormats [titleDeclaration], ofValue? (withFields value) =
        .ok (sheet { Field.plain "title" with required := true }) := by
  intro stub declared document sheet sheets withFields
  have hdistinct : (declared.map NamedDeclaration.name).Nodup := by decide
  have hkey : "entities" ∉ declared.map NamedDeclaration.name := by decide
  have hfields : ([titleDeclaration].map NamedDeclaration.name).Nodup := by decide
  have hnames : "" ∉ [titleDeclaration].map NamedDeclaration.name := by decide
  obtain ⟨hformats, hshapes⟩ := formats_agree declared hdistinct hkey
  refine ⟨hdistinct, hkey, by decide +kernel, fun written hwritten => ?_, hfields, hnames,
    by decide +kernel, fun value hvalue => ?_⟩
  · rw [hformats written hwritten]
    decide +kernel
  · obtain ⟨-, hsame⟩ :=
      hshapes sheetDeclaration.entries [titleDeclaration] hfields hnames value hvalue
    refine Eq.trans hsame ?_
    decide +kernel

end Entity

end Kanban
