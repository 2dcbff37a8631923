/-
Declaration values: what a declaration file holds, with maps in the order
written.  A key of a map need not be a text.
-/
import Kanban.Binary64.Decimal
import Kanban.Mapping
import Kanban.Text.Quoted

namespace Kanban

/-- A key of a map: any value but a list or a map. -/
inductive Key where
  | null
  | bool (value : Bool)
  | int (value : Int)
  | float (value : Binary64)
  | text (value : String)
deriving DecidableEq

instance : Coe String Key := ⟨.text⟩

namespace Key

/-- The key that stands for all that are equal to it.  Truth values are equal to
one and zero, and doubles to the whole numbers that they are.  Of what is not a number
there is one: readers of documents make no second. -/
def canonical : Key → Key
  | .bool value => .int (if value then 1 else 0)
  | .float value =>
      match value.whole? with
      | some whole => .int whole
      | none => .float value
  | key => key

/-- How a key prints. -/
def shown : Key → String
  | .null => "None"
  | .bool value => if value then "True" else "False"
  | .int value => toString value
  | .float value => value.toText
  | .text value => value

/-- How a key prints among others: a text is quoted. -/
def quoted : Key → String
  | .text value => Kanban.quoted value
  | key => key.shown

end Key

/-- A value of a declaration. -/
inductive Value where
  | null
  | bool (value : Bool)
  | int (value : Int)
  | float (value : Binary64)
  | text (value : String)
  | list (items : List Value)
  | map (entries : List (Key × Value))

/-- What a map holds. -/
abbrev Entries := Mapping Value Key

/-- The value that a key is. -/
def Key.toValue : Key → Value
  | .null => .null
  | .bool value => .bool value
  | .int value => .int value
  | .float value => .float value
  | .text value => .text value

/-- Set a key as a map does: a key that is equal to one that is there takes its
place. -/
def Entries.set (key : Key) (value : Value) : Entries → Entries
  | [] => [(key, value)]
  | entry :: rest =>
      if entry.1.canonical = key.canonical then (entry.1, value) :: rest
      else entry :: Entries.set key value rest

/-- The map that entries make when they are set one after the other. -/
def Entries.ofPairs (pairs : Entries) : Entries :=
  pairs.foldl (fun entries entry => entries.set entry.1 entry.2) []

namespace Value

/-- The key that a value is, if it can be one. -/
def key? : Value → Option Key
  | .null => some .null
  | .bool value => some (.bool value)
  | .int value => some (.int value)
  | .float value => some (.float value)
  | .text value => some (.text value)
  | .list _ | .map _ => none

mutual

/-- How a value prints among others. -/
def quoted : Value → String
  | .list items => "[" ++ ", ".intercalate (quotedItems items) ++ "]"
  | .map entries => "\x7b" ++ ", ".intercalate (quotedEntries entries) ++ "\x7d"
  | .null => Key.null.quoted
  | .bool value => (Key.bool value).quoted
  | .int value => (Key.int value).quoted
  | .float value => (Key.float value).quoted
  | .text value => (Key.text value).quoted

def quotedItems : List Value → List String
  | [] => []
  | item :: rest => item.quoted :: quotedItems rest

def quotedEntries : List (Key × Value) → List String
  | [] => []
  | (key, value) :: rest => (key.quoted ++ ": " ++ value.quoted) :: quotedEntries rest

end

/-- How a value prints by itself: a text as it is. -/
def shown : Value → String
  | .text value => value
  | value => value.quoted

/-- The name of a value's type in messages. -/
def typeName : Value → String
  | .null => "NoneType"
  | .bool _ => "bool"
  | .int _ => "int"
  | .float _ => "float"
  | .text _ => "str"
  | .list _ => "list"
  | .map _ => "dict"

/-- Whether a value counts as given: null, false, zeros and everything empty
do not. -/
def truthy : Value → Bool
  | .null => false
  | .bool value => value
  | .int value => value != 0
  | .float value => !value.same (.zero false)
  | .text value => value != ""
  | .list items => !items.isEmpty
  | .map entries => !entries.isEmpty

/-- The text of a text value. -/
def text? : Value → Option String
  | .text value => some value
  | _ => none

/-- The entries of a map. -/
def entries? : Value → Option Entries
  | .map entries => some entries
  | _ => none

/-- The value of a text that is not empty. -/
def nonEmptyText? (value : Value) : Option String :=
  value.text?.filter fun text => text != ""

mutual

/-- Whether every double in a value is a finite number. -/
def isWritable : Value → Bool
  | .float value => value.units?.isSome
  | .list items => areWritable items
  | .map entries => areWritableEntries entries
  | _ => true

def areWritable : List Value → Bool
  | [] => true
  | item :: rest => item.isWritable && areWritable rest

def areWritableEntries : List (Key × Value) → Bool
  | [] => true
  | (_, value) :: rest => value.isWritable && areWritableEntries rest

end

mutual

/-- Equality that can be computed. -/
def same : Value → Value → Bool
  | .null, .null => true
  | .bool a, .bool b => a == b
  | .int a, .int b => a == b
  | .float a, .float b => decide (a = b)
  | .text a, .text b => a == b
  | .list a, .list b => sameItems a b
  | .map a, .map b => sameEntries a b
  | _, _ => false

def sameItems : List Value → List Value → Bool
  | [], [] => true
  | a :: as, b :: bs => same a b && sameItems as bs
  | _, _ => false

def sameEntries : List (Key × Value) → List (Key × Value) → Bool
  | [], [] => true
  | (key, a) :: as, (key', b) :: bs => decide (key = key') && same a b && sameEntries as bs
  | _, _ => false

end

mutual

theorem same_iff : ∀ a b : Value, same a b = true ↔ a = b
  | .null, b | .bool _, b | .int _, b | .float _, b | .text _, b => by
      cases b <;> simp [same]
  | .list items, b => by
      cases b <;> simp [same, sameItems_iff]
  | .map entries, b => by
      cases b <;> simp [same, sameEntries_iff]

theorem sameItems_iff : ∀ as bs : List Value, sameItems as bs = true ↔ as = bs
  | [], bs => by cases bs <;> simp [sameItems]
  | a :: as, bs => by
      cases bs <;> simp [sameItems, same_iff, sameItems_iff]

theorem sameEntries_iff :
    ∀ as bs : List (Key × Value), sameEntries as bs = true ↔ as = bs
  | [], bs => by cases bs <;> simp [sameEntries]
  | (key, a) :: as, bs => by
      rcases bs with _ | ⟨⟨key', b⟩, bs⟩
      · simp [sameEntries]
      · simp [sameEntries, same_iff, sameEntries_iff, and_assoc]

end

instance : DecidableEq Value := fun a b =>
  decidable_of_iff _ (same_iff a b)

end Value

end Kanban
