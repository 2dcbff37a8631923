/-
Stores whose positions are finite and whose creation numbers were given out by
the counter.  In such a store every container has an end, and what is created
there comes last: among equal positions the newest number decides.
-/
import Mathlib.Data.List.InsertIdx
import Kanban.Proofs.Ordering.Slots
import Kanban.Proofs.Store.Contents
import Kanban.Proofs.Store.Finite

namespace Kanban

/-- All positions are finite, and no number is past the counter. -/
structure Store.Regular (store : Store) : Prop where
  finite : ∀ kind, ∀ item ∈ (store.shelf kind).items, item.position.IsFinite
  numbered : ∀ kind, ∀ item ∈ (store.shelf kind).items, item.seq ≤ store.counter

namespace Store

variable {store : Store} {kind : Kind} {container : String}

theorem Regular.ne_nan (hregular : store.Regular) {item : Item}
    (hitem : item ∈ (store.shelf kind).members container) : item.position ≠ .nan :=
  (hregular.finite kind item (Shelf.mem_members.mp hitem).1).ne_nan

/-- A view is in canonical order. -/
theorem Regular.pairwise_view (hregular : store.Regular) (kind : Kind) (container : String) :
    (store.view kind container).Pairwise fun a b => a.le b = true :=
  List.pairwise_map.mpr (Shelf.pairwise_contents fun _ hitem => hregular.ne_nan hitem)

theorem Regular.orderSiblings_view (hregular : store.Regular) :
    orderSiblings (store.view kind container) = store.view kind container := by
  apply orderBy_of_pairwise (hregular.pairwise_view kind container)
  intro entry hentry
  obtain ⟨item, hitem, rfl⟩ := List.mem_map.mp hentry
  exact (hregular.finite kind item (Shelf.mem_contents.mp hitem).1).ne_nan

/-- The end of a container is found past its last entry. -/
theorem Regular.endOf_eq (hregular : store.Regular) :
    store.endOf kind container =
      positionBetween (store.view kind container).getLast? none := by
  rw [Store.endOf_eq, hregular.orderSiblings_view]

/-- The end of a container is a finite position that no member stands past. -/
theorem Regular.exists_end (hregular : store.Regular) (kind : Kind) (container : String) :
    ∃ position, store.endOf kind container = .ok position ∧ position.IsFinite ∧
      ∀ item ∈ store.members kind container, ∃ low high,
        item.position.rank = some low ∧ position.rank = some high ∧ low ≤ high := by
  have hmembers {item : Item} (hitem : item ∈ store.members kind container) :
      item.snapshot ∈ store.view kind container :=
    List.mem_map_of_mem (((store.shelf kind).contents_perm container).mem_iff.mpr hitem)
  rw [hregular.endOf_eq]
  cases hlast : (store.view kind container).getLast? with
  | none =>
      refine ⟨_, rfl, isFinite_first, ?_⟩
      intro item hitem
      rw [List.getLast?_eq_none_iff] at hlast
      exact absurd (hlast ▸ hmembers hitem) (by simp)
  | some last =>
      obtain ⟨before, hview⟩ := List.getLast?_eq_some_iff.mp hlast
      have hfinite : last.position.IsFinite := by
        obtain ⟨item, hitem, rfl⟩ := List.mem_map.mp (List.mem_of_getLast? hlast)
        exact hregular.finite kind item (Shelf.mem_contents.mp hitem).1
      obtain ⟨position, hafter, hposition, top, high, htop, hhigh, hle⟩ := exists_after hfinite
      refine ⟨position, hafter, hposition, ?_⟩
      intro item hitem
      have hplace := hmembers hitem
      have hordered := hregular.pairwise_view kind container
      rw [hview, List.mem_append, List.mem_singleton] at hplace
      rw [hview, List.pairwise_append] at hordered
      rcases hplace with hplace | hplace
      · have hbefore := hordered.2.2 item.snapshot hplace last (List.mem_singleton_self last)
        obtain ⟨low, top', hlow, htop'⟩ := Sibling.exists_rank_of_le hbefore
        rw [htop] at htop'
        obtain rfl := Option.some.inj htop'
        rw [Sibling.le_iff hlow htop] at hbefore
        exact ⟨low, high, hlow, hhigh, by omega⟩
      · rw [← hplace] at htop
        exact ⟨top, high, htop, hhigh, hle⟩

/-- A creation without a position under an unused id puts the new item last. -/
theorem Regular.exists_created (hregular : store.Regular) (container : String) {draft : Draft}
    (hend : draft.position = none)
    (hnew : store.get? kind (idFor kind (store.counter + 1) draft.id) = none) :
    ∃ item, store.create kind container draft =
        (store.takeNumber.withShelf kind (((store.shelf kind).put item).bump [container]),
          .ok item) ∧
      item.id = idFor kind (store.counter + 1) draft.id ∧ item.container = container ∧
      item.position.IsFinite ∧ item.seq = (store.counter + 1 : Nat) ∧
      ((store.shelf kind).put item).contents container =
        (store.shelf kind).contents container ++ [item] := by
  obtain ⟨position, hposition, hfinite, hpast⟩ := hregular.exists_end kind container
  refine ⟨store.drafted kind container draft position, create_of_ok ?_, rfl, rfl, hfinite, rfl, ?_⟩
  · rw [hend]
    exact hposition
  · refine Shelf.contents_put_last hnew
      (fun other hother => hregular.ne_nan hother) hfinite.ne_nan ?_
    intro other hother
    obtain ⟨low, high, hlow, hhigh, hle⟩ := hpast other hother
    have hseq := hregular.numbered kind other (Shelf.mem_members.mp hother).1
    rw [Sibling.le_iff hlow hhigh]
    rcases Int.lt_or_eq_of_le hle with hlt | heq
    · exact Or.inl hlt
    · refine Or.inr ⟨heq, Or.inl ?_⟩
      change other.seq < ((store.counter + 1 : Nat) : Int)
      omega

/-- Regularity of a store with one shelf exchanged. -/
theorem Regular.withShelf (hregular : store.Regular) {shelf : Shelf}
    (hfinite : ∀ item ∈ shelf.items, item.position.IsFinite)
    (hnumbered : ∀ item ∈ shelf.items, item.seq ≤ store.counter) :
    (store.withShelf kind shelf).Regular := by
  constructor
  · intro other item hitem
    by_cases hkind : other = kind
    · subst hkind
      rw [shelf_withShelf_self] at hitem
      exact hfinite item hitem
    · rw [shelf_withShelf_of_ne _ hkind] at hitem
      exact hregular.finite other item hitem
  · intro other item hitem
    rw [counter_withShelf]
    by_cases hkind : other = kind
    · subst hkind
      rw [shelf_withShelf_self] at hitem
      exact hnumbered item hitem
    · rw [shelf_withShelf_of_ne _ hkind] at hitem
      exact hregular.numbered other item hitem

theorem Regular.takeNumber (hregular : store.Regular) : store.takeNumber.Regular := by
  constructor
  · intro kind item hitem
    rw [shelf_takeNumber] at hitem
    exact hregular.finite kind item hitem
  · intro kind item hitem
    rw [shelf_takeNumber] at hitem
    have hseq := hregular.numbered kind item hitem
    change item.seq ≤ ((store.counter + 1 : Nat) : Int)
    omega

end Store

end Kanban
