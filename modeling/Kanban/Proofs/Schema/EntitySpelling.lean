/-
Entities spelled out.  The map of an entity that some value declares is read as that
entity again, field by field and signature by signature.  Only a description that does not
count as given and is no text is left out of the map, and then an empty text takes its
place.
-/
import Kanban.Proofs.Run
import Kanban.Proofs.Schema.Spelling
import Kanban.Schema.Entity

namespace Kanban

/-- The elements that are read from a value are its own. -/
theorem Value.elementsIfGiven?_eq_ok {value : Option Value} {items : List Value}
    (hread : elementsIfGiven? value = .ok items) :
    items = [] ∨ ∃ found, value = some found ∧ found.elements? = some items := by
  cases value with
  | none => exact Or.inl (Except.ok.inj hread).symm
  | some found =>
      unfold elementsIfGiven? at hread
      dsimp only at hread
      split at hread
      · cases helements : found.elements? with
        | none =>
            rw [helements] at hread
            cases hread
        | some elements =>
            rw [helements] at hread
            exact Or.inr ⟨found, rfl, helements.trans (congrArg some (Except.ok.inj hread))⟩
      · exact Or.inl (Except.ok.inj hread).symm

theorem Value.elementsIfGiven?_list (items : List Value) :
    elementsIfGiven? (some (.list items)) = .ok items := by
  cases items <;> rfl

namespace Entity

/-- A listed declaration is the map that it is given by. -/
theorem listed?_eq_some {item : Value} {declared : Value × Entries}
    (hlisted : listed? item = some declared) : item = .map declared.2 := by
  cases item with
  | map entries =>
      obtain ⟨name, -, rfl⟩ := Option.map_eq_some_iff.mp hlisted
      rfl
  | _ => cases hlisted

theorem listedField_eq_ok {declared : Value × Entries} {field : Field}
    (hfield : listedField declared = .ok field) :
    ∃ name, declared.1.key? = some name ∧ field = Field.ofValue name (.map declared.2) := by
  unfold listedField at hfield
  split at hfield
  · exact ⟨_, ‹_›, (Except.ok.inj hfield).symm⟩
  · cases hfield

/-- No key is a map. -/
theorem listed?_toValue (key : Key) : listed? key.toValue = none := by
  cases key <;> rfl

/-- Only maps declare fields in a list, and they stand in lists alone. -/
theorem declared_elements {value : Value} {items : List Value} {fields : List Field}
    (hdistinct : value.DistinctKeys) (helements : value.elements? = some items)
    (hfields : (items.filterMap listed?).mapM listedField = .ok fields) :
    Field.DeclaredAll fields := by
  apply Field.declaredAll_of_forall
  intro field hfield
  obtain ⟨declared, hdeclared, hmade⟩ := exists_mem_of_mapM hfields field hfield
  obtain ⟨item, hitem, hlisted⟩ := List.mem_filterMap.mp hdeclared
  cases value with
  | list found =>
      obtain rfl := Option.some.inj helements
      obtain rfl := listed?_eq_some hlisted
      obtain ⟨name, -, rfl⟩ := listedField_eq_ok hmade
      rw [Value.DistinctKeys] at hdistinct
      exact Field.declared_ofValue name _ (hdistinct.of_mem hitem)
  | text chars =>
      obtain rfl := Option.some.inj helements
      obtain ⟨c, -, rfl⟩ := List.mem_map.mp hitem
      cases hlisted
  | map entries =>
      obtain rfl := Option.some.inj helements
      obtain ⟨entry, -, rfl⟩ := List.mem_map.mp hitem
      rw [listed?_toValue] at hlisted
      cases hlisted
  | _ => cases helements

theorem declared_declaredFields? {value : Option Value} {fields : List Field}
    (hdistinct : ∀ found, value = some found → found.DistinctKeys)
    (hread : declaredFields? value = .ok fields) : Field.DeclaredAll fields := by
  unfold declaredFields? at hread
  split at hread
  · rename_i entries
    have hentries := hdistinct (.map entries) rfl
    rw [Value.DistinctKeys] at hentries
    rw [← Except.ok.inj hread]
    exact Field.declared_fieldsOf entries hentries.2
  · obtain ⟨items, hitems, hfields⟩ := bind_eq_ok_iff.mp hread
    rcases Value.elementsIfGiven?_eq_ok hitems with rfl | ⟨found, rfl, helements⟩
    · obtain rfl : [] = fields := Except.ok.inj hfields
      rw [Field.DeclaredAll]
      trivial
    · exact declared_elements (hdistinct found rfl) helements hfields

theorem fieldsOf?_eq_ok_iff {value : Option Value} {map : FieldMap} :
    fieldsOf? value = .ok map ↔ declaredFields? value = .ok map.fields := by
  unfold fieldsOf?
  rw [bind_eq_ok_iff]
  constructor
  · rintro ⟨fields, hfields, hmap⟩
    split at hmap
    · rename_i found hfound
      obtain rfl := Except.ok.inj hmap
      rw [hfields, FieldMap.ofList?_eq_ok_iff.mp hfound]
    · cases hmap
  · intro hfields
    refine ⟨map.fields, hfields, ?_⟩
    rw [FieldMap.ofList?_eq_ok_iff.mpr rfl]

/-- Everything that is asked of a value that declares an entity. -/
theorem ofValue?_eq_ok_iff {value : Value} {entity : Entity} :
    ofValue? value = .ok entity ↔
      ∃ entries, value = .map entries ∧
        fieldsOf? (Mapping.get? (.text "fields") entries) = .ok entity.fields ∧
        Mapping.get? (.text "name") entries = some entity.name ∧
        Value.elementsIfGiven? (Mapping.get? (.text "queries") entries) = .ok entity.queries ∧
        Value.elementsIfGiven? (Mapping.get? (.text "mutations") entries) =
          .ok entity.mutations ∧
        entity.description = (Mapping.get? (.text "description") entries).getD (.text "") := by
  constructor
  · intro hread
    cases value with
    | map entries =>
        unfold ofValue? at hread
        obtain ⟨fields, hfields, hread⟩ := bind_eq_ok_iff.mp hread
        obtain ⟨name, hname, hread⟩ := bind_eq_ok_iff.mp hread
        obtain ⟨queries, hqueries, hread⟩ := bind_eq_ok_iff.mp hread
        obtain ⟨mutations, hmutations, hread⟩ := bind_eq_ok_iff.mp hread
        dsimp only at hread
        split at hread
        · obtain rfl := Except.ok.inj hread
          have hgiven : Mapping.get? (.text "name") entries = some name := by
            unfold nameOf? at hname
            split at hname
            · rename_i found hfound
              rw [hfound, Except.ok.inj hname]
            · cases hname
          exact ⟨entries, rfl, hfields, hgiven, hqueries, hmutations, rfl⟩
        · cases hread
    | _ => cases hread
  · rintro ⟨entries, rfl, hfields, hname, hqueries, hmutations, hdescription⟩
    have hgiven : nameOf? entries = .ok entity.name := by rw [nameOf?, hname]
    unfold ofValue?
    refine bind_eq_ok_iff.mpr ⟨_, hfields, bind_eq_ok_iff.mpr ⟨_, hgiven,
      bind_eq_ok_iff.mpr ⟨_, hqueries, bind_eq_ok_iff.mpr ⟨_, hmutations, ?_⟩⟩⟩⟩
    simp only [entity.name_given, ↓reduceDIte, ← hdescription]

/-- What the map of an entity has to say. -/
def said (entity : Entity) : Mapping (Option Value) Key :=
  [("name", some entity.name), ("fields", some (.map entity.fields.toMapping)),
    ("queries", if !entity.queries.isEmpty then some (.list entity.queries) else none),
    ("mutations", if !entity.mutations.isEmpty then some (.list entity.mutations) else none),
    ("description", if entity.description.truthy then some entity.description else none)]

theorem toMapping_eq (entity : Entity) : entity.toMapping = Mapping.given entity.said := by
  simp only [toMapping, said, Field.entryIf_eq, Mapping.given, Mapping.entry]
  simp

theorem get?_toMapping (entity : Entity) (key : String) :
    Mapping.get? (.text key) entity.toMapping = (Mapping.get? (.text key) entity.said).join := by
  rw [toMapping_eq]
  exact Mapping.get?_given (by simp [Mapping.keys, said]) _

theorem elementsIfGiven?_of_list (items : List Value) :
    Value.elementsIfGiven? (if !items.isEmpty then some (.list items) else none) = .ok items := by
  cases items <;> rfl

/-- An entity that some value declares is declared again by its map, except that a
description which does not count as given becomes an empty text. -/
theorem entity_respelled {value : Value} {entity : Entity} (hdistinct : value.DistinctKeys)
    (hread : ofValue? value = .ok entity) :
    (∃ again, ofValue? entity.toValue = .ok again ∧ again.name = entity.name ∧
      again.fields = entity.fields ∧ again.queries = entity.queries ∧
      again.mutations = entity.mutations ∧
      again.description =
        if entity.description.truthy then entity.description else .text "") ∧
    (ofValue? entity.toValue = .ok entity ↔
      entity.description.truthy = true ∨ entity.description = .text "") := by
  obtain ⟨entries, rfl, hfields, -⟩ := ofValue?_eq_ok_iff.mp hread
  rw [Value.DistinctKeys] at hdistinct
  have hdeclared : Field.DeclaredAll entity.fields.fields :=
    declared_declaredFields? (fun _ => hdistinct.2.of_get?) (fieldsOf?_eq_ok_iff.mp hfields)
  have hspelled : fieldsOf? (some (.map entity.fields.toMapping)) = .ok entity.fields :=
    fieldsOf?_eq_ok_iff.mpr
      (congrArg Except.ok (Field.fieldsOf_entriesOf entity.fields.fields hdeclared))
  have hagain : ofValue? entity.toValue = .ok { entity with
      description := if entity.description.truthy then entity.description else .text "" } := by
    refine ofValue?_eq_ok_iff.mpr ⟨entity.toMapping, rfl, ?_⟩
    simp only [get?_toMapping]
    refine ⟨hspelled, rfl, elementsIfGiven?_of_list entity.queries,
      elementsIfGiven?_of_list entity.mutations, ?_⟩
    cases htruthy : entity.description.truthy <;> simp [said, Mapping.get?, htruthy]
  refine ⟨⟨_, hagain, rfl, rfl, rfl, rfl, rfl⟩, ?_⟩
  rw [hagain, Except.ok.injEq]
  cases htruthy : entity.description.truthy with
  | true => exact iff_of_true rfl (Or.inl rfl)
  | false =>
      constructor
      · intro hsame
        exact Or.inr (congrArg Entity.description hsame).symm
      · rintro (htrue | hempty)
        · cases htrue
        · rw [if_neg Bool.false_ne_true, ← hempty]

/-- An entity with a field that is named by a number, whose description is declared as
null, is declared with an empty one by its map. -/
theorem entity_respelled_nullDescription :
    let declared : Value := .map [("name", .text "Board"),
      ("fields", .list [.map [("name", .text "rows"), ("kind", .text "array"),
        ("items", .text ""), ("type_override", .text "")], .text "title",
        .map [("name", .int 5), ("type", .text "array")]]),
      ("queries", .text "ab"), ("description", .null)]
    let board (description : Value) : Entity :=
      ⟨.text "Board", ⟨[⟨.plain "rows" "array", some (.plain "rows"), none⟩,
          ⟨.plain (.int 5) "array", none, none⟩], by decide⟩,
        [.text "a", .text "b"], [], description, by decide⟩
    declared.DistinctKeys ∧ ofValue? declared = .ok (board .null) ∧
      ofValue? (board .null).toValue = .ok (board (.text "")) ∧
      ofValue? (board .null).toValue ≠ .ok (board .null) := by
  intro declared board
  have hdistinct : declared.DistinctKeys := by
    simp [declared, Value.DistinctKeys, Value.DistinctKeysItems, Value.DistinctKeysEntries,
      Mapping.keys, Key.canonical]
  have hread : ofValue? declared = .ok (board .null) := by decide +kernel
  obtain ⟨-, hreturns⟩ := entity_respelled hdistinct hread
  refine ⟨hdistinct, hread, by decide +kernel, ?_⟩
  rw [ne_eq, hreturns]
  decide

end Entity

end Kanban
