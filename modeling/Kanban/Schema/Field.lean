/-
Fields declare the attributes of an entity.  A field has a kind; an array
describes its elements by a field of its own, an object its attributes by a
list of fields.  Either may still be missing while an entity is being written.
-/
import Kanban.Ordering.Sorted
import Kanban.Value

namespace Kanban

/-- The kinds a declaration is expected to use.  Other kinds are accepted and
name a type themselves. -/
inductive FieldKind where
  | string
  | boolean
  | number
  | date
  | array
  | object
deriving DecidableEq, Repr

namespace FieldKind

def all : List FieldKind :=
  [.string, .boolean, .number, .date, .array, .object]

def token : FieldKind → String
  | .string => "string"
  | .boolean => "boolean"
  | .number => "number"
  | .date => "date"
  | .array => "array"
  | .object => "object"

def ofToken? (token : String) : Option FieldKind :=
  all.find? fun kind => decide (kind.token = token)

theorem ofToken?_token (kind : FieldKind) : ofToken? kind.token = some kind := by
  cases kind <;> decide

/-- Whether a token names one of the expected kinds. -/
def isKnown (token : String) : Bool :=
  (ofToken? token).isSome

/-- What is said of a token that names no kind. -/
def unknownMessage (token : String) : String :=
  quoted token ++ " is not a valid FieldKind"

end FieldKind

/-- What a field says about itself.  Its name is the key it is declared under,
which need not be a text, and a default of null is none. -/
structure FieldFacts where
  name : Key
  kind : String
  required : Bool
  override : Option String
  readonly : Bool
  hidden : Bool
  initial : Value
  description : String
deriving DecidableEq

namespace FieldFacts

/-- A plain field of a kind, with nothing else said. -/
def plain (name : Key) (kind : String) : FieldFacts :=
  ⟨name, kind, false, none, false, false, .null, ""⟩

/-- The type name given outright, when it is not empty. -/
def typeName? (facts : FieldFacts) : Option String :=
  facts.override.filter fun name => decide (name ≠ "")

def isArray (facts : FieldFacts) : Bool :=
  decide (facts.kind = FieldKind.array.token)

def isObject (facts : FieldFacts) : Bool :=
  decide (facts.kind = FieldKind.object.token)

end FieldFacts

/-- A declared attribute. -/
structure Field extends FieldFacts where
  items : Option Field
  properties : Option (List Field)

namespace Field

/-- A string field that says nothing else. -/
def plain (name : Key) : Field :=
  ⟨.plain name FieldKind.string.token, none, none⟩

/-- Whether the shape that the kind needs is missing.  An outright type name
settles every field. -/
def isUnresolved (field : Field) : Bool :=
  field.typeName?.isNone &&
    ((field.isArray && field.items.isNone) || (field.isObject && field.properties.isNone))

/-- The same field under another name; its elements keep theirs. -/
def rename (field : Field) (name : Key) : Field :=
  { field with name := name }

mutual

/-- Equality that can be computed. -/
def same : Field → Field → Bool
  | ⟨facts, items, properties⟩, ⟨facts', items', properties'⟩ =>
      decide (facts = facts') && sameItems items items' &&
        sameProperties properties properties'

def sameItems : Option Field → Option Field → Bool
  | none, none => true
  | some a, some b => same a b
  | _, _ => false

def sameProperties : Option (List Field) → Option (List Field) → Bool
  | none, none => true
  | some as, some bs => sameFields as bs
  | _, _ => false

def sameFields : List Field → List Field → Bool
  | [], [] => true
  | a :: as, b :: bs => same a b && sameFields as bs
  | _, _ => false

end

mutual

theorem same_iff : ∀ a b : Field, same a b = true ↔ a = b
  | ⟨facts, items, properties⟩, ⟨facts', items', properties'⟩ => by
      simp [same, sameItems_iff items, sameProperties_iff properties, and_assoc]

theorem sameItems_iff : ∀ a b : Option Field, sameItems a b = true ↔ a = b
  | none, b => by cases b <;> simp [sameItems]
  | some a, b => by cases b <;> simp [sameItems, same_iff a]

theorem sameProperties_iff :
    ∀ a b : Option (List Field), sameProperties a b = true ↔ a = b
  | none, b => by cases b <;> simp [sameProperties]
  | some as, b => by cases b <;> simp [sameProperties, sameFields_iff as]

theorem sameFields_iff : ∀ as bs : List Field, sameFields as bs = true ↔ as = bs
  | [], bs => by cases bs <;> simp [sameFields]
  | a :: as, bs => by cases bs <;> simp [sameFields, same_iff a, sameFields_iff as]

end

instance : DecidableEq Field := fun a b =>
  decidable_of_iff _ (same_iff a b)

end Field

/-- Where a number stands among others: in front of all, at a value, or behind
all. -/
def Key.number? : Key → Option (Int × Int)
  | .bool value => some (0, if value then Binary64.scale else 0)
  | .int value => some (0, value * Binary64.scale)
  | .float (.infinite negative) => some (if negative then -1 else 1, 0)
  | .float value => value.units?.map fun units => (0, units)
  | _ => none

/-- The order of names that are of one sort. -/
def Key.le : Key → Key → Bool
  | .text a, .text b => decide (a ≤ b)
  | a, b =>
      match a.number?, b.number? with
      | some (side, units), some (side', units') =>
          decide (side < side' ∨ side = side' ∧ units ≤ units')
      | _, _ => true

/-- Whether two names can be put in order. -/
def Key.comparable : Key → Key → Bool
  | .text _, .text _ => true
  | .text _, _ | _, .text _ => false
  | .null, .null => true
  | .null, _ | _, .null => false
  | _, _ => true

/-- Names that stand more than once, each as it stands first. -/
def repeatedNames (names : List Key) : List Key :=
  let count (name : Key) := (names.map Key.canonical).count name.canonical
  (names.filter fun name => decide (1 < count name)).eraseDupsBy fun a b =>
    decide (a.canonical = b.canonical)

/-- Several fields of one name stand side by side. -/
inductive RepeatedFields where
  | named (names : List Key)
  /-- The names that are repeated cannot be put in order. -/
  | unordered
deriving DecidableEq

/-- What is said of fields whose names are not distinct. -/
def RepeatedFields.ofNames (names : List Key) : RepeatedFields :=
  let repeated := repeatedNames names
  if repeated.all fun a => repeated.all a.comparable then .named (sortBy Key.le repeated)
  else .unordered

def RepeatedFields.message : RepeatedFields → String
  | .named names =>
      "Duplicate field name(s): [" ++ ", ".intercalate (names.map Key.quoted) ++ "]"
  | .unordered => ""

/-- The fields of an entity in the order declared, no two of one name. -/
structure FieldMap where
  fields : List Field
  names_nodup : (fields.map fun field => field.name.canonical).Nodup
deriving DecidableEq

namespace FieldMap

def empty : FieldMap :=
  ⟨[], List.nodup_nil⟩

def names (map : FieldMap) : List Key :=
  map.fields.map fun field => field.name

/-- The fields as a map, unless a name is repeated. -/
def ofList? (fields : List Field) : Except RepeatedFields FieldMap :=
  if h : (fields.map fun field => field.name.canonical).Nodup then .ok ⟨fields, h⟩
  else .error (.ofNames (fields.map fun field => field.name))

def get? (map : FieldMap) (name : String) : Option Field :=
  map.fields.find? fun field => decide (field.name = .text name)

end FieldMap

end Kanban
