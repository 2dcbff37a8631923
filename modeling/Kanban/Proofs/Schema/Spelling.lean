/-
Fields spelled out.  The map that spells a field out says each thing once and leaves out
what goes without saying.  A field that some value declares is declared again by that map,
down to every element and every attribute, so spelling out twice is spelling out once.
-/
import Mathlib.Data.List.Basic
import Kanban.Schema.Declaration

namespace Kanban

/-- The entry of a key whose value may be missing. -/
def Mapping.entry {A K : Type} (key : K) (value : Option A) : Mapping A K :=
  (value.map fun found => (key, found)).toList

/-- The entries of a map in which values may be missing, without those. -/
def Mapping.given {A K : Type} : Mapping (Option A) K → Mapping A K
  | [] => []
  | (key, value) :: rest => Mapping.entry key value ++ Mapping.given rest

theorem Mapping.keys_given_sublist {A K : Type} (entries : Mapping (Option A) K) :
    (Mapping.keys (Mapping.given entries)).Sublist (Mapping.keys entries) := by
  induction entries with
  | nil => exact List.Sublist.slnil
  | cons entry rest ih =>
      obtain ⟨key, _ | value⟩ := entry
      · exact ih.cons key
      · exact ih.cons_cons key

/-- What stands under a key, if each key is there once. -/
theorem Mapping.get?_given {A K : Type} [DecidableEq K] {entries : Mapping (Option A) K}
    (hnodup : (Mapping.keys entries).Nodup) (key : K) :
    Mapping.get? key (Mapping.given entries) = (Mapping.get? key entries).join := by
  induction entries with
  | nil => rfl
  | cons entry rest ih =>
      obtain ⟨other, value⟩ := entry
      obtain ⟨hnew, hrest⟩ := List.nodup_cons.mp hnodup
      by_cases hkey : other = key
      · subst hkey
        have hnone : Mapping.get? other (Mapping.given rest) = none :=
          Mapping.get?_eq_none_iff.mpr fun hmem => hnew ((Mapping.keys_given_sublist rest).mem hmem)
        cases value <;> simp [Mapping.given, Mapping.entry, Mapping.get?, hnone]
      · cases value <;> simp [Mapping.given, Mapping.entry, Mapping.get?, hkey, ih hrest]

namespace Value

mutual

/-- Every map in a value has each of its keys once, equal keys being one. -/
def DistinctKeys : Value → Prop
  | .list items => DistinctKeysItems items
  | .map entries =>
      ((Mapping.keys entries).map Key.canonical).Nodup ∧ DistinctKeysEntries entries
  | _ => True

def DistinctKeysItems : List Value → Prop
  | [] => True
  | item :: rest => item.DistinctKeys ∧ DistinctKeysItems rest

def DistinctKeysEntries : List (Key × Value) → Prop
  | [] => True
  | (_, value) :: rest => value.DistinctKeys ∧ DistinctKeysEntries rest

end

theorem DistinctKeysEntries.of_get? {entries : Entries} {key : Key} {value : Value}
    (hdistinct : DistinctKeysEntries entries) (hget : Mapping.get? key entries = some value) :
    value.DistinctKeys := by
  induction entries with
  | nil => cases hget
  | cons entry rest ih =>
      obtain ⟨other, found⟩ := entry
      rw [DistinctKeysEntries] at hdistinct
      by_cases hkey : other = key
      · rw [Mapping.get?, if_pos hkey] at hget
        obtain rfl := Option.some.inj hget
        exact hdistinct.1
      · rw [Mapping.get?, if_neg hkey] at hget
        exact ih hdistinct.2 hget

theorem DistinctKeysItems.of_mem {items : List Value} {item : Value}
    (hdistinct : DistinctKeysItems items) (hitem : item ∈ items) : item.DistinctKeys := by
  induction items with
  | nil => cases hitem
  | cons first rest ih =>
      rw [DistinctKeysItems] at hdistinct
      rcases List.mem_cons.mp hitem with rfl | hrest
      · exact hdistinct.1
      · exact ih hdistinct.2 hrest

theorem ne_of_nonEmptyText? {value : Value} {text : String}
    (htext : value.nonEmptyText? = some text) : text ≠ "" := by
  simpa using (Option.filter_eq_some_iff.mp htext).2

end Value

/-- The map that is made of fields holds just these. -/
theorem FieldMap.ofList?_eq_ok_iff {fields : List Field} {map : FieldMap} :
    FieldMap.ofList? fields = .ok map ↔ map.fields = fields := by
  constructor
  · intro hmap
    unfold FieldMap.ofList? at hmap
    split at hmap
    · rw [← Except.ok.inj hmap]
    · cases hmap
  · rintro rfl
    exact dif_pos map.names_nodup

namespace Field

mutual

/-- A field as values declare them: its kind is not empty, nor is an outright type name; its
default repeats no key, its elements bear its name, and its attributes make a field map. -/
def Declared : Field → Prop
  | ⟨facts, items, properties⟩ =>
      facts.kind ≠ "" ∧ facts.override ≠ some "" ∧ facts.initial.DistinctKeys ∧
        DeclaredItems facts.name items ∧ DeclaredProperties properties

def DeclaredItems (name : Key) : Option Field → Prop
  | none => True
  | some item => item.name = name ∧ Declared item

def DeclaredProperties : Option (List Field) → Prop
  | none => True
  | some fields => (∃ map, FieldMap.ofList? fields = .ok map) ∧ DeclaredAll fields

def DeclaredAll : List Field → Prop
  | [] => True
  | field :: rest => Declared field ∧ DeclaredAll rest

end

/-- The element field that a value under the key items declares. -/
def nested? (name : Key) : Value → Option Field
  | .text kind => some (ofValue name (.text kind))
  | .map entries => some (ofValue name (.map entries))
  | _ => none

/-- The attribute fields that a value under the key properties declares. -/
def attributes? : Value → Option (List Field)
  | .map entries => some (fieldsOf entries)
  | _ => none

theorem itemsOf_cons (name key : Key) (value : Value) (rest : Entries) :
    itemsOf name ((key, value) :: rest) =
      if key = .text "items" then nested? name value else itemsOf name rest := by
  cases value <;> simp [itemsOf, nested?]

theorem propertiesOf_cons (key : Key) (value : Value) (rest : Entries) :
    propertiesOf ((key, value) :: rest) =
      if key = .text "properties" then attributes? value else propertiesOf rest := by
  cases value <;> simp [propertiesOf, attributes?]

theorem itemsOf_eq (name : Key) (entries : Entries) :
    itemsOf name entries = (Mapping.get? (.text "items") entries).bind (nested? name) := by
  induction entries with
  | nil => simp [itemsOf, Mapping.get?]
  | cons entry rest ih =>
      obtain ⟨key, value⟩ := entry
      rw [itemsOf_cons, Mapping.get?]
      split
      · rfl
      · exact ih

theorem propertiesOf_eq (entries : Entries) :
    propertiesOf entries = (Mapping.get? (.text "properties") entries).bind attributes? := by
  induction entries with
  | nil => simp [propertiesOf, Mapping.get?]
  | cons entry rest ih =>
      obtain ⟨key, value⟩ := entry
      rw [propertiesOf_cons, Mapping.get?]
      split
      · rfl
      · exact ih

theorem declaredAll_of_forall {fields : List Field}
    (hfields : ∀ field ∈ fields, field.Declared) : DeclaredAll fields := by
  induction fields with
  | nil =>
      rw [DeclaredAll]
      trivial
  | cons field rest ih =>
      obtain ⟨hfield, hrest⟩ := List.forall_mem_cons.mp hfields
      rw [DeclaredAll]
      exact ⟨hfield, ih hrest⟩

theorem name_ofValue (name : Key) (value : Value) : (ofValue name value).name = name := by
  cases value <;> simp [ofValue, plain, FieldFacts.plain, factsOf]

theorem names_fieldsOf (entries : Entries) :
    (fieldsOf entries).map (fun field => field.name) = Mapping.keys entries := by
  induction entries with
  | nil => rfl
  | cons entry rest ih =>
      rw [fieldsOf, List.map_cons, ih, name_ofValue]
      rfl

theorem canonical_names_fieldsOf (entries : Entries) :
    (fieldsOf entries).map (fun field => field.name.canonical) =
      (Mapping.keys entries).map Key.canonical := by
  rw [← names_fieldsOf, List.map_map]
  rfl

theorem declared_plain (name : Key) {kind : String} (hkind : kind ≠ "") :
    Declared ⟨.plain name kind, none, none⟩ := by
  simp [Declared, DeclaredItems, DeclaredProperties, FieldFacts.plain, Value.DistinctKeys, hkind]

theorem kind_factsOf (name : Key) (entries : Entries) :
    (factsOf name entries).kind ≠ "" := by
  simp only [factsOf]
  cases hkind : (either? entries "type" "kind").bind Value.nonEmptyText? with
  | none => simp [FieldKind.token]
  | some kind =>
      obtain ⟨value, -, htext⟩ := Option.bind_eq_some_iff.mp hkind
      exact Value.ne_of_nonEmptyText? htext

theorem override_factsOf (name : Key) (entries : Entries) :
    (factsOf name entries).override ≠ some "" := by
  intro hempty
  obtain ⟨value, -, htext⟩ := Option.bind_eq_some_iff.mp hempty
  exact Value.ne_of_nonEmptyText? htext rfl

theorem initial_factsOf (name : Key) {entries : Entries}
    (hdistinct : Value.DistinctKeysEntries entries) :
    (factsOf name entries).initial.DistinctKeys := by
  simp only [factsOf]
  cases hget : Mapping.get? (.text "default") entries with
  | none => simp [Value.DistinctKeys]
  | some value => exact hdistinct.of_get? hget

mutual

theorem declared_ofValue (name : Key) : ∀ value : Value, value.DistinctKeys →
    (ofValue name value).Declared
  | .text kind, _ => by
      rw [ofValue]
      split
      · exact declared_plain name (by decide)
      · exact declared_plain name ‹_›
  | .map entries, hdistinct => by
      rw [Value.DistinctKeys] at hdistinct
      rw [ofValue, Declared]
      exact ⟨kind_factsOf name entries, override_factsOf name entries,
        initial_factsOf name hdistinct.2, declared_itemsOf name entries hdistinct.2,
        declared_propertiesOf entries hdistinct.2⟩
  | .null, _ | .bool _, _ | .int _, _ | .float _, _ | .list _, _ => by
      rw [ofValue]
      exact declared_plain name (by decide)
      all_goals simp

theorem declared_itemsOf (name : Key) : ∀ entries : List (Key × Value),
    Value.DistinctKeysEntries entries → DeclaredItems name (itemsOf name entries)
  | [], _ => by simp [itemsOf, DeclaredItems]
  | (key, value) :: rest, hdistinct => by
      rw [itemsOf_cons]
      split
      · have hvalue := declared_ofValue name value hdistinct.1
        cases value with
        | text kind => exact ⟨name_ofValue name _, hvalue⟩
        | map entries => exact ⟨name_ofValue name _, hvalue⟩
        | _ => trivial
      · exact declared_itemsOf name rest hdistinct.2

theorem declared_propertiesOf : ∀ entries : List (Key × Value),
    Value.DistinctKeysEntries entries → DeclaredProperties (propertiesOf entries)
  | [], _ => by simp [propertiesOf, DeclaredProperties]
  | (key, value) :: rest, hdistinct => by
      rw [propertiesOf_cons]
      split
      · cases value with
        | map entries =>
            obtain ⟨hkeys, hentries⟩ := hdistinct.1
            have hnames : ((fieldsOf entries).map fun field => field.name.canonical).Nodup := by
              rw [canonical_names_fieldsOf]
              exact hkeys
            exact ⟨⟨⟨fieldsOf entries, hnames⟩, FieldMap.ofList?_eq_ok_iff.mpr rfl⟩,
              declared_fieldsOf entries hentries⟩
        | _ => trivial
      · exact declared_propertiesOf rest hdistinct.2

theorem declared_fieldsOf : ∀ entries : List (Key × Value),
    Value.DistinctKeysEntries entries → DeclaredAll (fieldsOf entries)
  | [], _ => by simp [fieldsOf, DeclaredAll]
  | (name, value) :: rest, hdistinct => by
      rw [fieldsOf]
      exact ⟨declared_ofValue name value hdistinct.1, declared_fieldsOf rest hdistinct.2⟩

end

/-- What the map that spells a field out has to say. -/
def said (facts : FieldFacts) (items : Option Field) (properties : Option (List Field)) :
    Mapping (Option Value) Key :=
  [("type", some (.text facts.kind)),
    ("required", if facts.required then some (.bool true) else none),
    ("items", items.map toValue),
    ("properties", properties.map fun fields => .map (entriesOf fields)),
    ("graphqlType", facts.typeName?.map .text),
    ("readonly", if facts.readonly then some (.bool true) else none),
    ("hidden", if facts.hidden then some (.bool true) else none),
    ("default", if facts.initial ≠ .null then some facts.initial else none),
    ("description", if facts.description ≠ "" then some (.text facts.description) else none)]

theorem entryIf_eq (condition : Bool) (key : String) (value : Value) :
    entryIf condition key value =
      Mapping.entry (.text key) (if condition then some value else none) := by
  cases condition <;> rfl

theorem itemsEntry_eq (items : Option Field) :
    itemsEntry items = Mapping.entry (.text "items") (items.map toValue) := by
  cases items <;> simp [itemsEntry, Mapping.entry]

theorem propertiesEntry_eq (properties : Option (List Field)) :
    propertiesEntry properties =
      Mapping.entry (.text "properties")
        (properties.map fun fields => .map (entriesOf fields)) := by
  cases properties <;> simp [propertiesEntry, Mapping.entry]

section

variable (facts : FieldFacts) (items : Option Field) (properties : Option (List Field))

theorem toValue_eq :
    toValue ⟨facts, items, properties⟩ = .map (Mapping.given (said facts items properties)) := by
  rw [toValue]
  simp only [entryIf_eq, itemsEntry_eq, propertiesEntry_eq, said, Mapping.given, decide_eq_true_eq]
  cases facts.typeName? <;> simp [Mapping.entry]

theorem get?_spelling (key : String) :
    Mapping.get? (.text key) (Mapping.given (said facts items properties)) =
      (Mapping.get? (.text key) (said facts items properties)).join :=
  Mapping.get?_given (by simp [Mapping.keys, said]) _

theorem flag_eq (entries : Entries) (key : String) :
    flag entries key = ((Mapping.get? (.text key) entries).map Value.truthy).getD false := by
  unfold flag
  cases Mapping.get? (.text key) entries <;> rfl

theorem factsOf_spelling (hkind : facts.kind ≠ "") (hoverride : facts.override ≠ some "") :
    factsOf facts.name (Mapping.given (said facts items properties)) = facts := by
  have htype : facts.typeName? = facts.override := by
    cases h : facts.override <;> simp_all [FieldFacts.typeName?]
  have htext {text : String} (hgiven : text ≠ "") :
      (Value.text text).nonEmptyText? = some text := by
    simp [Value.nonEmptyText?, Value.text?, Option.filter, hgiven]
  have hflag (condition : Bool) :
      (if condition = true then some (Value.bool true).truthy else none).getD false =
        condition := by
    cases condition <;> rfl
  obtain ⟨name, kind, required, override, readonly, hidden, initial, description⟩ := facts
  have htypeName : (override.map Value.text).bind Value.nonEmptyText? = override := by
    cases override with
    | none => rfl
    | some typeName => exact htext fun hempty => hoverride (congrArg some hempty)
  have hinitial : (if initial = Value.null then none else some initial).getD Value.null =
      initial := by
    split <;> simp_all
  have hdescription : ((if description = "" then none else some (Value.text description)).bind
      Value.text?).getD "" = description := by
    split <;> simp_all [Value.text?]
  -- The keys are told apart only after each lookup has been reduced to what there is to say.
  simp only at hkind htype
  simp only [factsOf, flag_eq, either?, get?_spelling]
  simp [said, Mapping.get?, htype, htext hkind, hflag, htypeName, hinitial, hdescription]

theorem itemsOf_spelling (name : Key) :
    itemsOf name (Mapping.given (said facts items properties)) =
      (items.map toValue).bind (nested? name) := by
  rw [itemsOf_eq, get?_spelling]
  rfl

theorem propertiesOf_spelling :
    propertiesOf (Mapping.given (said facts items properties)) =
      properties.map fun fields => fieldsOf (entriesOf fields) := by
  rw [propertiesOf_eq, get?_spelling]
  cases properties <;> rfl

end

mutual

theorem ofValue_toValue : ∀ field : Field, field.Declared →
    ofValue field.name field.toValue = field
  | ⟨facts, items, properties⟩, hdeclared => by
      rw [Declared] at hdeclared
      obtain ⟨hkind, hoverride, -, hitems, hproperties⟩ := hdeclared
      rw [toValue_eq, ofValue, factsOf_spelling facts items properties hkind hoverride,
        itemsOf_spelling, nested?_toValue facts.name items hitems, propertiesOf_spelling,
        attributes_toValue properties hproperties]

theorem nested?_toValue (name : Key) : ∀ items : Option Field, DeclaredItems name items →
    (items.map toValue).bind (nested? name) = items
  | none, _ => rfl
  | some ⟨facts, items, properties⟩, ⟨hname, hdeclared⟩ => by
      have hitem := ofValue_toValue ⟨facts, items, properties⟩ hdeclared
      rw [hname, toValue_eq] at hitem
      rw [Option.map_some, Option.bind_some, toValue_eq, nested?, hitem]

theorem attributes_toValue : ∀ properties : Option (List Field), DeclaredProperties properties →
    (properties.map fun fields => fieldsOf (entriesOf fields)) = properties
  | none, _ => rfl
  | some fields, ⟨_, hfields⟩ => congrArg some (fieldsOf_entriesOf fields hfields)

theorem fieldsOf_entriesOf : ∀ fields : List Field, DeclaredAll fields →
    fieldsOf (entriesOf fields) = fields
  | [], _ => by rw [entriesOf, fieldsOf]
  | field :: rest, ⟨hfield, hrest⟩ => by
      rw [entriesOf, fieldsOf, ofValue_toValue field hfield, fieldsOf_entriesOf rest hrest]

end

theorem distinctKeys_given {entries : Mapping (Option Value) Key}
    (hdistinct : ∀ entry ∈ entries, ∀ value, entry.2 = some value → value.DistinctKeys) :
    Value.DistinctKeysEntries (Mapping.given entries) := by
  induction entries with
  | nil => trivial
  | cons entry rest ih =>
      obtain ⟨hentry, hrest⟩ := List.forall_mem_cons.mp hdistinct
      obtain ⟨key, _ | value⟩ := entry
      · exact ih hrest
      · exact ⟨hentry value rfl, ih hrest⟩

theorem canonical_keys_entriesOf (fields : List Field) :
    (Mapping.keys (entriesOf fields)).map Key.canonical =
      fields.map fun field => field.name.canonical := by
  induction fields with
  | nil => rfl
  | cons field rest ih =>
      rw [entriesOf, List.map_cons, ← ih]
      rfl

mutual

theorem distinctKeys_toValue : ∀ field : Field, field.Declared → field.toValue.DistinctKeys
  | ⟨facts, items, properties⟩, hdeclared => by
      rw [Declared] at hdeclared
      obtain ⟨-, -, hinitial, hitems, hproperties⟩ := hdeclared
      have hflag (condition : Bool) : ∀ value : Value,
          (if condition then some (.bool true) else none) = some value → value.DistinctKeys := by
        cases condition <;> simp [Value.DistinctKeys]
      rw [toValue_eq, Value.DistinctKeys]
      have hkeys : ((said facts items properties).keys.map Key.canonical).Nodup := by
        simp [Mapping.keys, said, Key.canonical]
      refine ⟨((Mapping.keys_given_sublist _).map Key.canonical).nodup hkeys, ?_⟩
      apply distinctKeys_given
      simp only [said, List.forall_mem_cons]
      refine ⟨?_, hflag _, distinctKeys_items facts.name items hitems,
        distinctKeys_properties properties hproperties, ?_, hflag _, hflag _, ?_, ?_, by simp⟩
      · simp [Value.DistinctKeys]
      · simp [Value.DistinctKeys]
      · simpa using fun _ => hinitial
      · simp [Value.DistinctKeys]

theorem distinctKeys_items (name : Key) : ∀ items : Option Field, DeclaredItems name items →
    ∀ value, items.map toValue = some value → value.DistinctKeys
  | none, _, _, hnone => by cases hnone
  | some item, ⟨_, hitem⟩, _, hvalue => by
      rw [← Option.some.inj hvalue]
      exact distinctKeys_toValue item hitem

theorem distinctKeys_properties : ∀ properties : Option (List Field),
    DeclaredProperties properties →
      ∀ value, (properties.map fun fields => Value.map (entriesOf fields)) = some value →
        value.DistinctKeys
  | none, _, _, hnone => by cases hnone
  | some fields, ⟨⟨map, hmap⟩, hfields⟩, _, hvalue => by
      have hnames := map.names_nodup
      rw [FieldMap.ofList?_eq_ok_iff.mp hmap] at hnames
      rw [← Option.some.inj hvalue, Value.DistinctKeys, canonical_keys_entriesOf]
      exact ⟨hnames, distinctKeys_entriesOf fields hfields⟩

theorem distinctKeys_entriesOf : ∀ fields : List Field, DeclaredAll fields →
    Value.DistinctKeysEntries (entriesOf fields)
  | [], _ => by simp [entriesOf, Value.DistinctKeysEntries]
  | field :: rest, ⟨hfield, hrest⟩ => by
      rw [entriesOf]
      exact ⟨distinctKeys_toValue field hfield, distinctKeys_entriesOf rest hrest⟩

end

/-- Every value declares a field whose attributes make field maps throughout.  The map that
spells the field out declares it again, in everything that is said of it, of its elements
and of its attributes, and is what spells that one out. -/
theorem field_respelled (name : Key) {value : Value} (hdistinct : value.DistinctKeys) :
    let field := ofValue name value
    field.Declared ∧ field.toValue.DistinctKeys ∧ ofValue name field.toValue = field ∧
      (ofValue name field.toValue).toValue = field.toValue := by
  intro field
  have hdeclared : field.Declared := declared_ofValue name value hdistinct
  have hagain : ofValue name field.toValue = field := by
    have hname : field.name = name := name_ofValue name value
    have hspelled := ofValue_toValue field hdeclared
    rwa [hname] at hspelled
  exact ⟨hdeclared, distinctKeys_toValue field hdeclared, hagain, by rw [hagain]⟩

/-- Rows of objects, declared with other keys and values than the map that spells them out
has. -/
theorem field_respelled_rows :
    let declared : Value := .map [("kind", .text "array"), ("required", .int 2),
      ("items", .map [("type", .null), ("kind", .text "object"), ("type_override", .text "Row"),
        ("properties", .map [("b", .null), ("a", .text "")]), ("items", .list [])]),
      ("default", .float .nan), ("description", .bool true)]
    let spelled : Value := .map [("type", .text "array"), ("required", .bool true),
      ("items", .map [("type", .text "string"),
        ("properties", .map [("b", .map [("type", .text "string")]),
          ("a", .map [("type", .text "string")])]),
        ("graphqlType", .text "Row")]),
      ("default", .float .nan)]
    declared.DistinctKeys ∧ (ofValue "rows" declared).toValue = spelled ∧
      ofValue "rows" spelled = ofValue "rows" declared := by
  intro declared spelled
  have hdistinct : declared.DistinctKeys := by
    simp [declared, Value.DistinctKeys, Value.DistinctKeysItems, Value.DistinctKeysEntries,
      Mapping.keys, Key.canonical]
  have hspelled : (ofValue "rows" declared).toValue = spelled := by decide +kernel
  obtain ⟨-, -, hagain, -⟩ := field_respelled "rows" hdistinct
  rw [hspelled] at hagain
  exact ⟨hdistinct, hspelled, hagain⟩

end Field

end Kanban
