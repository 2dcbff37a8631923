/-
Types resolved through elements.  The type of an array is the type of its elements in
brackets, so resolving goes down the elements as long as there are some and no type is
given outright.  The field where the way ends decides.  If its shape is missing, there is no
type, and it is the culprit that is looked for; otherwise its own type stands in as many
brackets as there were steps.
-/
import Kanban.Schema.TypeDefinition

namespace Kanban

namespace Field

/-- The element field that an array takes its type from; none is asked where a type is
given outright. -/
def element? (field : Field) : Option Field :=
  if field.isArray && field.typeName?.isNone then field.items else none

/-- The way down the elements of a field, step by step, to the field where it ends. -/
inductive EndsAt : Field → Nat → Field → Prop where
  | here {field : Field} (hlast : field.element? = none) : EndsAt field 0 field
  | down {field item bottom : Field} {depth : Nat} (hitem : field.element? = some item)
      (hends : EndsAt item depth bottom) : EndsAt field (depth + 1) bottom

/-- The shape that the kind of a field needs is missing, and no type is given outright. -/
inductive Lacks (field : Field) : OmitReason → Prop where
  | items (htype : field.typeName? = none) (harray : field.isArray = true)
      (hnone : field.items = none) : Lacks field .arrayWithoutItems
  | properties (htype : field.typeName? = none) (hobject : field.isObject = true)
      (hnone : field.properties = none) : Lacks field .objectWithoutProperties

/-- The kinds that are built in, with their types. -/
def builtInTypes : Mapping String :=
  [("string", "String"), ("boolean", "Boolean"), ("number", "Int")]

/-- The type of a field whose elements are not asked: the one given outright, in brackets if
the field is an array, or the type of the kind, which names itself if it is not built in. -/
def ownType (field : Field) : String :=
  match field.typeName? with
  | some name => if field.isArray then bracketed name else name
  | none => (Mapping.get? field.kind builtInTypes).getD field.kind

/-- A type in brackets, one pair for every level. -/
def enclosed (depth : Nat) (name : String) : String :=
  String.ofList (List.replicate depth '[') ++ name ++ String.ofList (List.replicate depth ']')

variable {field item bottom : Field} {depth : Nat} {reason : OmitReason}

theorem enclosed_zero (name : String) : enclosed 0 name = name := by
  simp [enclosed]

theorem bracketed_enclosed (depth : Nat) (name : String) :
    bracketed (enclosed depth name) = enclosed (depth + 1) name := by
  have hclose : String.ofList (List.replicate (depth + 1) ']') =
      String.ofList (List.replicate depth ']') ++ "]" := by
    rw [List.replicate_succ', String.ofList_append]
  have hopen : String.ofList (List.replicate (depth + 1) '[') =
      "[" ++ String.ofList (List.replicate depth '[') := by
    rw [List.replicate_succ, ← List.singleton_append, String.ofList_append]
  simp only [bracketed, enclosed, hopen, hclose, String.append_assoc]

theorem baseType_eq (kind : String) :
    baseType kind = (Mapping.get? kind builtInTypes).getD kind := by
  unfold baseType
  cases hfound : FieldKind.ofToken? kind with
  | none =>
      have hunknown (known : FieldKind) : known.token ≠ kind := by
        rintro rfl
        rw [FieldKind.ofToken?_token] at hfound
        cases hfound
      have hstring : "string" ≠ kind := hunknown .string
      have hboolean : "boolean" ≠ kind := hunknown .boolean
      have hnumber : "number" ≠ kind := hunknown .number
      simp [Mapping.get?, builtInTypes, hstring, hboolean, hnumber]
  | some known =>
      obtain rfl : known.token = kind := by simpa using List.find?_some hfound
      cases known <;> rfl

theorem isObject_of_isArray (harray : field.isArray = true) : field.isObject = false := by
  have hkind : field.kind = FieldKind.array.token := of_decide_eq_true harray
  rw [FieldFacts.isObject, hkind]
  decide

theorem isUnresolved_iff : field.isUnresolved = true ↔ ∃ reason, field.Lacks reason := by
  simp only [isUnresolved, Bool.and_eq_true, Bool.or_eq_true, Option.isNone_iff_eq_none]
  constructor
  · rintro ⟨htype, ⟨harray, hnone⟩ | ⟨hobject, hnone⟩⟩
    · exact ⟨_, .items htype harray hnone⟩
    · exact ⟨_, .properties htype hobject hnone⟩
  · rintro ⟨reason, hlacks⟩
    cases hlacks with
    | items htype harray hnone => exact ⟨htype, Or.inl ⟨harray, hnone⟩⟩
    | properties htype hobject hnone => exact ⟨htype, Or.inr ⟨hobject, hnone⟩⟩

theorem Lacks.omitReason_eq (hlacks : field.Lacks reason) : field.omitReason = reason := by
  cases hlacks with
  | items htype harray hnone => exact if_pos harray
  | properties htype hobject hnone =>
      refine if_neg fun harray => ?_
      rw [isObject_of_isArray harray] at hobject
      cases hobject

theorem element?_eq_some_iff : field.element? = some item ↔
    field.isArray = true ∧ field.typeName? = none ∧ field.items = some item := by
  simp [element?, and_assoc]

theorem not_isUnresolved_of_element (hitem : field.element? = some item) :
    field.isUnresolved = false := by
  obtain ⟨harray, -, hsome⟩ := element?_eq_some_iff.mp hitem
  simp [isUnresolved, hsome, isObject_of_isArray harray]

/-- An array has the type of its element in brackets. -/
theorem resolveType_of_element (hitem : field.element? = some item) :
    field.resolveType = item.resolveType.map bracketed := by
  obtain ⟨harray, htype, hsome⟩ := element?_eq_some_iff.mp hitem
  obtain ⟨facts, items, properties⟩ := field
  simp only at harray htype hsome
  rw [resolveType, htype, harray, hsome]
  rfl

/-- What is wrong with an array that has an element is wrong with the element. -/
theorem culprit?_of_element (hitem : field.element? = some item) :
    field.culprit? = item.culprit? := by
  have hresolved := not_isUnresolved_of_element hitem
  obtain ⟨harray, htype, hsome⟩ := element?_eq_some_iff.mp hitem
  obtain ⟨facts, items, properties⟩ := field
  simp only at harray htype hsome
  rw [culprit?, hresolved, htype, harray, hsome]
  rfl

/-- Where no element is asked, a type is missing exactly if a shape is. -/
theorem resolveType_of_last (hlast : field.element? = none) :
    field.resolveType = if field.isUnresolved then none else some field.ownType := by
  obtain ⟨facts, items, properties⟩ := field
  cases htype : facts.typeName? with
  | some name => simp [resolveType, isUnresolved, ownType, htype]
  | none =>
      cases harray : facts.isArray with
      | true =>
          obtain rfl : items = none := by simpa [element?, htype, harray] using hlast
          simp [resolveType, resolveItems, isUnresolved, htype, harray]
      | false => simp [resolveType, isUnresolved, ownType, baseType_eq, htype, harray]

theorem culprit?_of_last (hlast : field.element? = none) :
    field.culprit? = if field.isUnresolved then some field else none := by
  obtain ⟨facts, items, properties⟩ := field
  rw [culprit?]
  split
  · rfl
  · cases items with
    | none => simp [culpritItems]
    | some item =>
        have hstops : (facts.typeName?.isSome || !facts.isArray) = true := by
          cases htype : facts.typeName? <;> simp_all [element?]
        rw [if_pos hstops]

theorem exists_endsAt : ∀ field : Field, ∃ depth bottom, field.EndsAt depth bottom
  | ⟨facts, none, properties⟩ => ⟨0, _, .here (by simp [element?])⟩
  | ⟨facts, some item, properties⟩ => by
      cases helement : element? ⟨facts, some item, properties⟩ with
      | none => exact ⟨0, _, .here helement⟩
      | some found =>
          obtain ⟨-, -, hfound⟩ := element?_eq_some_iff.mp helement
          obtain rfl := Option.some.inj hfound
          obtain ⟨depth, bottom, hends⟩ := exists_endsAt item
          exact ⟨depth + 1, bottom, .down helement hends⟩

namespace EndsAt

theorem unique {depth' : Nat} {bottom' : Field} (hends : field.EndsAt depth bottom)
    (hother : field.EndsAt depth' bottom') : depth' = depth ∧ bottom' = bottom := by
  induction hends generalizing depth' with
  | here hlast =>
      cases hother with
      | here _ => exact ⟨rfl, rfl⟩
      | down hitem _ => rw [hlast] at hitem; cases hitem
  | down hitem _ ih =>
      cases hother with
      | here hlast => rw [hitem] at hlast; cases hlast
      | down hitem' hends' =>
          obtain rfl := Option.some.inj (hitem.symm.trans hitem')
          obtain ⟨rfl, rfl⟩ := ih hends'
          exact ⟨rfl, rfl⟩

theorem resolveType_eq (hends : field.EndsAt depth bottom) :
    field.resolveType =
      if bottom.isUnresolved then none else some (enclosed depth bottom.ownType) := by
  induction hends with
  | here hlast => rw [resolveType_of_last hlast, enclosed_zero]
  | down hitem _ ih =>
      rw [resolveType_of_element hitem, ih]
      split
      · rfl
      · rw [Option.map_some, bracketed_enclosed]

theorem culprit?_eq (hends : field.EndsAt depth bottom) :
    field.culprit? = if bottom.isUnresolved then some bottom else none := by
  induction hends with
  | here hlast => exact culprit?_of_last hlast
  | down hitem _ ih => rw [culprit?_of_element hitem, ih]

end EndsAt

/-- A type is resolved, or a culprit found, where the way down the elements ends; it ends at
one field only.  If that field lacks a shape, there is no type, it is the culprit, and its
kind tells why the field is left out.  If not, there is no culprit, and the type is its own
in as many brackets as the way has steps. -/
theorem resolved_at_end (field : Field) :
    ∃ depth bottom, field.EndsAt depth bottom ∧
      (∀ depth' bottom', field.EndsAt depth' bottom' → depth' = depth ∧ bottom' = bottom) ∧
      ((∃ reason, bottom.Lacks reason ∧ bottom.isUnresolved = true ∧
          field.resolveType = none ∧ field.culprit? = some bottom ∧
          field.compile = .omitted ⟨field.name, reason⟩) ∨
        ((∀ reason, ¬ bottom.Lacks reason) ∧ bottom.isUnresolved = false ∧
          field.resolveType = some (enclosed depth bottom.ownType) ∧ field.culprit? = none ∧
          field.compile =
            .emitted ⟨field.name, enclosed depth bottom.ownType, field.required⟩)) := by
  obtain ⟨depth, bottom, hends⟩ := exists_endsAt field
  refine ⟨depth, bottom, hends, fun _ _ hother => hends.unique hother, ?_⟩
  have htype := hends.resolveType_eq
  have hculprit := hends.culprit?_eq
  cases hshape : bottom.isUnresolved with
  | true =>
      obtain ⟨reason, hlacks⟩ := isUnresolved_iff.mp hshape
      rw [hshape, if_pos rfl] at htype hculprit
      refine Or.inl ⟨reason, hlacks, rfl, htype, hculprit, ?_⟩
      rw [compile, htype, hculprit, Option.getD_some, hlacks.omitReason_eq]
  | false =>
      rw [hshape, if_neg Bool.false_ne_true] at htype hculprit
      refine Or.inr ⟨fun reason hlacks => ?_, rfl, htype, hculprit, ?_⟩
      · rw [isUnresolved_iff.mpr ⟨reason, hlacks⟩] at hshape
        cases hshape
      · rw [compile, htype]

/-- A type that is given outright to an array names its elements. -/
example : resolveType ⟨.plain "rows" "array",
    some ⟨{ FieldFacts.plain "rows" "array" with override := some "Row" }, none, none⟩, none⟩ =
      some "[[Row]]" := by
  decide +kernel

end Field

end Kanban
