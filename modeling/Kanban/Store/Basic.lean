/-
The board store.  Each kind has its shelf: the items, no two with one id, and
a version for every container, zero until something is written there.  One
counter numbers everything that is ever created.
-/
import Kanban.Store.Item

namespace Kanban

/-- The items of one kind and the versions of their containers. -/
@[ext]
structure Shelf where
  items : List Item
  versions : String → Nat
  ids_nodup : (items.map Item.id).Nodup

def Shelf.empty : Shelf :=
  ⟨[], fun _ => 0, List.nodup_nil⟩

def Shelf.get? (shelf : Shelf) (id : String) : Option Item :=
  shelf.items.find? fun item => decide (item.id = id)

/-- The items of a container in canonical order. -/
def Shelf.contents (shelf : Shelf) (container : String) : List Item :=
  orderItems (shelf.items.filter fun item => decide (item.container = container))

/-- Count a write that touches every one of the given containers. -/
def Shelf.bump (shelf : Shelf) (containers : List String) : Shelf :=
  { shelf with
    versions := fun container =>
      if container ∈ containers then shelf.versions container + 1
      else shelf.versions container }

def Shelf.put (shelf : Shelf) (item : Item) : Shelf :=
  { shelf with
    items := putItem item shelf.items
    ids_nodup := ids_putItem_nodup item shelf.ids_nodup }

def Shelf.erase (shelf : Shelf) (id : String) : Shelf :=
  { shelf with
    items := shelf.items.filter fun item => decide (item.id ≠ id)
    ids_nodup := ids_filter_nodup _ shelf.ids_nodup }

/-- Give the named items their new positions and containers. -/
def Item.reposition (positions : Mapping Binary64) (containers : Mapping String)
    (item : Item) : Item :=
  { item with
    position := (Mapping.get? item.id positions).getD item.position
    container := (Mapping.get? item.id containers).getD item.container }

@[simp] theorem Item.id_reposition (positions : Mapping Binary64)
    (containers : Mapping String) (item : Item) :
    (item.reposition positions containers).id = item.id :=
  rfl

def Shelf.reposition (shelf : Shelf) (positions : Mapping Binary64)
    (containers : Mapping String) : Shelf :=
  { shelf with
    items := shelf.items.map (Item.reposition positions containers)
    ids_nodup := by
      rw [ids_map_of_id_eq (Item.id_reposition positions containers)]
      exact shelf.ids_nodup }

/-- Lists, cards and the number of things created so far. -/
@[ext]
structure Store where
  lists : Shelf
  cards : Shelf
  counter : Nat

namespace Store

def empty : Store :=
  ⟨.empty, .empty, 0⟩

def shelf (store : Store) : Kind → Shelf
  | .list => store.lists
  | .card => store.cards

def withShelf (store : Store) (kind : Kind) (shelf : Shelf) : Store :=
  match kind with
  | .list => { store with lists := shelf }
  | .card => { store with cards := shelf }

def get? (store : Store) (kind : Kind) (id : String) : Option Item :=
  (store.shelf kind).get? id

def contents (store : Store) (kind : Kind) (container : String) : List Item :=
  (store.shelf kind).contents container

def version (store : Store) (kind : Kind) (container : String) : Nat :=
  (store.shelf kind).versions container

/-- The ordered view of a container. -/
def view (store : Store) (kind : Kind) (container : String) : List (Sibling Binary64) :=
  (store.contents kind container).map Item.snapshot

end Store

@[simp] theorem Store.shelf_withShelf_self (store : Store) (kind : Kind) (shelf : Shelf) :
    (store.withShelf kind shelf).shelf kind = shelf := by
  cases kind <;> rfl

@[simp] theorem Store.shelf_withShelf_of_ne (store : Store) {kind other : Kind}
    (hne : other ≠ kind) (shelf : Shelf) :
    (store.withShelf kind shelf).shelf other = store.shelf other := by
  cases kind <;> cases other <;> simp_all [Store.withShelf, Store.shelf]

@[simp] theorem Store.counter_withShelf (store : Store) (kind : Kind) (shelf : Shelf) :
    (store.withShelf kind shelf).counter = store.counter := by
  cases kind <;> rfl

end Kanban
