/-
Stores whose positions are finite.  They stay so as long as the operations name no
other positions: the end of a container of finite positions is finite itself.
-/
import Mathlib.Data.List.Basic
import Kanban.Proofs.Ordering.Slots
import Kanban.Proofs.Store.Versions

namespace Kanban

/-- All positions of a store are finite. -/
def Store.Finite (store : Store) : Prop :=
  ∀ kind, ∀ item ∈ (store.shelf kind).items, item.position.IsFinite

/-- Whatever positions an operation names are finite. -/
def Change.Finite : Change → Prop
  | .create _ _ draft => ∀ position, draft.position = some position → position.IsFinite
  | .upsert _ item => item.position.IsFinite
  | .delete _ _ => True
  | .write _ batch => ∀ entry ∈ batch.positions, entry.2.IsFinite

namespace Store

variable {store : Store} {kind : Kind} {container : String}

/-- The end of a container is found past the last of its siblings in order. -/
theorem endOf_eq : store.endOf kind container =
    positionBetween (orderSiblings (store.view kind container)).getLast? none := by
  have hslot (siblings : List (Sibling Binary64)) :
      clampIndex (siblings.length : Nat) siblings.length = siblings.length := by
    unfold clampIndex
    omega
  unfold endOf insertPosition
  dsimp only
  rw [neighbors_eq, hslot, List.take_length, List.drop_length]
  rfl

namespace Finite

theorem view (hfinite : store.Finite) :
    ∀ entry ∈ store.view kind container, entry.position.IsFinite := by
  intro entry hentry
  obtain ⟨item, hitem, rfl⟩ := List.mem_map.mp hentry
  exact hfinite kind item (Shelf.mem_contents.mp hitem).1

theorem endOf (hfinite : store.Finite) {position : Binary64}
    (hend : store.endOf kind container = .ok position) : position.IsFinite := by
  rw [endOf_eq] at hend
  obtain ⟨found, hfound, -, hsure⟩ := exists_positionBetween
    (orderSiblings (store.view kind container)).getLast? none
    (fun entry hentry => hfinite.view entry (mem_orderBy.mp (List.mem_of_getLast? hentry)))
    (fun entry hentry => by cases hentry)
  obtain rfl := Except.ok.inj (hfound.symm.trans hend)
  exact hsure (Or.inr rfl)

theorem positionFor (hfinite : store.Finite) {given : Option Binary64} {position : Binary64}
    (hgiven : ∀ position, given = some position → position.IsFinite)
    (hposition : store.positionFor kind container given = .ok position) :
    position.IsFinite := by
  cases given with
  | some found =>
      obtain rfl := Except.ok.inj hposition
      exact hgiven found rfl
  | none => exact hfinite.endOf hposition

theorem takeNumber (hfinite : store.Finite) : store.takeNumber.Finite := by
  intro kind item hitem
  rw [shelf_takeNumber] at hitem
  exact hfinite kind item hitem

theorem withShelf (hfinite : store.Finite) {shelf : Shelf}
    (hshelf : ∀ item ∈ shelf.items, item.position.IsFinite) :
    (store.withShelf kind shelf).Finite := by
  intro other item hitem
  by_cases hkind : other = kind
  · subst hkind
    rw [shelf_withShelf_self] at hitem
    exact hshelf item hitem
  · rw [shelf_withShelf_of_ne _ hkind] at hitem
    exact hfinite other item hitem

/-- Storing an item at a finite position. -/
theorem put (hfinite : store.Finite) {item : Item} (hitem : item.position.IsFinite) :
    ∀ other ∈ ((store.shelf kind).put item).items, other.position.IsFinite := by
  intro other hother
  rcases Shelf.mem_put.mp hother with rfl | ⟨hold, -⟩
  · exact hitem
  · exact hfinite kind other hold

/-- One operation. -/
theorem apply (hfinite : store.Finite) {change : Change} (hchange : change.Finite) :
    (store.apply change).Finite := by
  cases change with
  | create kind container draft =>
      change (store.create kind container draft).1.Finite
      cases hposition : store.positionFor kind container draft.position with
      | error cause =>
          rw [create_of_error hposition]
          exact hfinite.takeNumber
      | ok position =>
          rw [create_of_ok hposition]
          exact hfinite.takeNumber.withShelf
            (hfinite.put (hfinite.positionFor hchange hposition))
  | upsert kind item =>
      change (store.upsert kind item).1.Finite
      cases hprevious : store.get? kind item.id with
      | some previous =>
          rw [upsert_of_some hprevious]
          exact hfinite.withShelf (hfinite.put hchange)
      | none =>
          obtain ⟨numbered, stored, hshelf, -, -, hstored, heq⟩ := upsert_of_none hprevious
          have hnumbered : numbered.Finite := by
            intro other
            rw [hshelf]
            exact hfinite other
          have hposition : stored.position.IsFinite := by
            rw [hstored]
            exact hchange
          rw [heq]
          exact hnumbered.withShelf (hfinite.put hposition)
  | delete kind id =>
      change (store.delete kind id).1.Finite
      cases hitem : store.get? kind id with
      | none =>
          simp only [delete, hitem]
          exact hfinite
      | some item =>
          simp only [delete, hitem]
          refine hfinite.withShelf ?_
          intro other hother
          exact hfinite kind other (Shelf.mem_erase.mp hother).1
  | write kind batch =>
      cases hwrite : store.writePositions kind batch with
      | error cause =>
          simp only [Store.apply, hwrite]
          exact hfinite
      | ok written =>
          obtain ⟨-, -, rfl⟩ := writePositions_eq_ok_iff.mp hwrite
          simp only [Store.apply, hwrite]
          refine hfinite.withShelf ?_
          intro after hafter
          obtain ⟨item, hitem, rfl⟩ := List.mem_map.mp hafter
          cases hget : Mapping.get? item.id batch.positions with
          | none =>
              rw [Item.reposition, hget]
              exact hfinite kind item hitem
          | some position =>
              rw [Item.reposition, hget]
              exact hchange _ (Mapping.mem_of_get?_eq_some hget)

end Finite

end Store

end Kanban
