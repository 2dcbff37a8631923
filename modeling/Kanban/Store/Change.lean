/-
Writing to a store: creation, storing by id, deletion, and the compare-and-swap
of positions that moves go through.
-/
import Kanban.Ordering.Placement
import Kanban.Store.Basic

namespace Kanban

/-- What a new item is given.  Without a position it goes to the end of its
container, without an id it gets a generated one. -/
structure Draft where
  payload : Entries
  position : Option Binary64
  id : Option String

/-- Why a write of positions is turned down: the container is not as it was
read.  A backend may also refuse without naming versions, and a move finds
out by itself when its item has changed containers. -/
inductive Conflict where
  | stale (container : String) (expected : Int) (actual : Nat)
  | refused (container : String)
  | relocated (kind : Kind) (id source found : String)
deriving DecidableEq

namespace Conflict

def message : Conflict → String
  | .stale container expected actual =>
      "Container '" ++ container ++ "' changed during move (expected version " ++
        toString expected ++ ", found " ++ toString actual ++ ")"
  | .refused container => "Container '" ++ container ++ "' changed during move"
  | .relocated kind id source found =>
      kind.title ++ " '" ++ id ++ "' moved from '" ++ source ++ "' to '" ++ found ++
        "' before the locks were taken"

/-- The container that was not as expected. -/
def container : Conflict → String
  | .stale container _ _ => container
  | .refused container => container
  | .relocated _ _ source _ => source

def expected? : Conflict → Option Int
  | .stale _ expected _ => some expected
  | _ => none

def actual? : Conflict → Option Nat
  | .stale _ _ actual => some actual
  | _ => none

end Conflict

inductive WriteError where
  | conflict (cause : Conflict)
  /-- An item that is to get a new place is not stored. -/
  | missing (id : String)
deriving DecidableEq

/-- A write of positions and containers, valid while the expected containers
have the expected versions. -/
structure Batch where
  expected : Mapping Int
  positions : Mapping Binary64
  containers : Mapping String

namespace Store

/-- The number for the next thing created is taken even if creation then
fails. -/
def takeNumber (store : Store) : Store :=
  { store with counter := store.counter + 1 }

/-- The position at the end of a container. -/
def endOf (store : Store) (kind : Kind) (container : String) :
    Except Binary64.NotFinite Binary64 :=
  let siblings := orderSiblings (store.view kind container)
  insertPosition siblings siblings.length

/-- The position given, or the one at the end of the container. -/
def positionFor (store : Store) (kind : Kind) (container : String) :
    Option Binary64 → Except Binary64.NotFinite Binary64
  | some position => .ok position
  | none => store.endOf kind container

/-- The id given, or a generated one when it is absent or empty. -/
def idFor (kind : Kind) (number : Nat) (given : Option String) : String :=
  match given with
  | none => kind.name ++ "-" ++ toString number
  | some id => if id = "" then kind.name ++ "-" ++ toString number else id

/-- Create an item.  One stored under the same id is replaced, and only the
version of the new container counts the change. -/
def create (store : Store) (kind : Kind) (container : String) (draft : Draft) :
    Store × Except Binary64.NotFinite Item :=
  let numbered := store.takeNumber
  match numbered.positionFor kind container draft.position with
  | .error cause => (numbered, .error cause)
  | .ok position =>
      let item : Item :=
        ⟨idFor kind numbered.counter draft.id, container, position, numbered.counter,
          draft.payload⟩
      let shelf := ((numbered.shelf kind).put item).bump [container]
      (numbered.withShelf kind shelf, .ok item)

/-- Store an item under its id.  A new item without a number gets the next
one; the container left behind counts the change too. -/
def upsert (store : Store) (kind : Kind) (item : Item) : Store × Item :=
  match store.get? kind item.id with
  | some previous =>
      let shelf := ((store.shelf kind).put item).bump [item.container, previous.container]
      (store.withShelf kind shelf, item)
  | none =>
      let numbered := if item.seq = 0 then store.takeNumber else store
      let stored := if item.seq = 0 then { item with seq := numbered.counter } else item
      let shelf := ((numbered.shelf kind).put stored).bump [item.container]
      (numbered.withShelf kind shelf, stored)

/-- Delete an item; the answer is whether it was there. -/
def delete (store : Store) (kind : Kind) (id : String) : Store × Bool :=
  match store.get? kind id with
  | none => (store, false)
  | some item =>
      (store.withShelf kind (((store.shelf kind).erase id).bump [item.container]), true)

/-- The first expected version that is not the present one. -/
def stale? (store : Store) (kind : Kind) (expected : Mapping Int) : Option Conflict :=
  expected.findSome? fun (container, version) =>
    let actual := store.version kind container
    if version = actual then none else some (.stale container version actual)

/-- The first of the ids that is not stored. -/
def missing? (store : Store) (kind : Kind) (ids : List String) : Option String :=
  ids.find? fun id => (store.get? kind id).isNone

/-- Write a batch, all of it or nothing.  Versions are compared first, then
the named items are looked up; on success every expected container counts the
write. -/
def writePositions (store : Store) (kind : Kind) (batch : Batch) : Except WriteError Store :=
  match store.stale? kind batch.expected with
  | some conflict => .error (.conflict conflict)
  | none =>
      match store.missing? kind (batch.positions.keys ++ batch.containers.keys) with
      | some id => .error (.missing id)
      | none =>
          let shelf :=
            ((store.shelf kind).reposition batch.positions batch.containers).bump
              batch.expected.keys
          .ok (store.withShelf kind shelf)

/-- The present versions of the containers that a batch expects. -/
def versionsOf (store : Store) (kind : Kind) (batch : Batch) : Mapping Nat :=
  batch.expected.map fun (container, _) => (container, store.version kind container)

end Store

/-- One operation of a writer. -/
inductive Change where
  | create (kind : Kind) (container : String) (draft : Draft)
  | upsert (kind : Kind) (item : Item)
  | delete (kind : Kind) (id : String)
  | write (kind : Kind) (batch : Batch)

/-- The store after an operation.  One that is turned down writes nothing. -/
def Store.apply (store : Store) : Change → Store
  | .create kind container draft => (store.create kind container draft).1
  | .upsert kind item => (store.upsert kind item).1
  | .delete kind id => (store.delete kind id).1
  | .write kind batch =>
      match store.writePositions kind batch with
      | .ok written => written
      | .error _ => store

def Store.applyAll (store : Store) (changes : List Change) : Store :=
  changes.foldl Store.apply store

end Kanban
