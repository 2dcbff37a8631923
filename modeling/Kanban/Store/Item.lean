/-
What a store holds: lists, whose containers are boards, and cards, whose
containers are lists.
-/
import Kanban.Ordering.Sibling
import Kanban.Value

namespace Kanban

/-- Lists stand on boards, cards in lists. -/
inductive Kind where
  | list
  | card
deriving DecidableEq, Repr

def Kind.name : Kind → String
  | .list => "list"
  | .card => "card"

/-- The name at the start of a sentence. -/
def Kind.title : Kind → String
  | .list => "List"
  | .card => "Card"

/-- A stored list or card.  The payload holds everything that does not order
it. -/
structure Item where
  id : String
  container : String
  position : Binary64
  seq : Int
  payload : Entries
deriving DecidableEq

/-- The item as the ordering engine sees it. -/
def Item.snapshot (item : Item) : Sibling Binary64 :=
  ⟨item.id, item.position, item.container, item.seq⟩

/-- Items in the canonical order of their snapshots. -/
def orderItems (items : List Item) : List Item :=
  orderBy Item.snapshot items

/-- Store an item under its id: in place of the one that has it, or last. -/
def putItem (item : Item) : List Item → List Item
  | [] => [item]
  | other :: rest =>
      if other.id = item.id then item :: rest else other :: putItem item rest

theorem ids_putItem (item : Item) (items : List Item) :
    (putItem item items).map Item.id =
      if item.id ∈ items.map Item.id then items.map Item.id
      else items.map Item.id ++ [item.id] := by
  induction items with
  | nil => simp [putItem]
  | cons other rest ih =>
      by_cases hid : other.id = item.id
      · simp [putItem, hid]
      · have hne : ¬ item.id = other.id := fun h => hid h.symm
        simp only [putItem, hid, hne, ↓reduceIte, List.map_cons, List.mem_cons, false_or, ih]
        split <;> simp_all

theorem ids_putItem_nodup (item : Item) {items : List Item}
    (hnodup : (items.map Item.id).Nodup) : ((putItem item items).map Item.id).Nodup := by
  rw [ids_putItem]
  split
  · exact hnodup
  · rename_i hnew
    refine List.nodup_append.mpr ⟨hnodup, by simp, ?_⟩
    intro a ha b hb heq
    rw [List.mem_singleton] at hb
    exact hnew (by rw [← hb, ← heq]; exact ha)

theorem ids_filter_nodup (keep : Item → Bool) {items : List Item}
    (hnodup : (items.map Item.id).Nodup) :
    ((items.filter keep).map Item.id).Nodup :=
  hnodup.sublist (List.filter_sublist.map Item.id)

theorem ids_map_of_id_eq {change : Item → Item} (hid : ∀ item, (change item).id = item.id)
    (items : List Item) : (items.map change).map Item.id = items.map Item.id := by
  simp [List.map_map, Function.comp_def, hid]

end Kanban
