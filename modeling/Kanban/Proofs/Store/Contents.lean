/-
The ordered contents of a container.  While all positions are numbers, the items
of a container in canonical order are the only arrangement of its members that is
in order, so an operation is described by the arrangement it leads to.
-/
import Mathlib.Data.List.InsertIdx
import Kanban.Proofs.Ordering.Canonical
import Kanban.Proofs.Store.Shelf

namespace Kanban

namespace Shelf

variable {shelf other : Shelf} {container : String} {items : List Item} {item : Item}

theorem contents_perm (shelf : Shelf) (container : String) :
    (shelf.contents container).Perm (shelf.members container) :=
  orderBy_perm _ _

theorem ids_contents_nodup (shelf : Shelf) (container : String) :
    ((shelf.contents container).map Item.id).Nodup :=
  ((shelf.contents_perm container).map Item.id).nodup_iff.mpr
    (ids_filter_nodup _ shelf.ids_nodup)

theorem pairwise_contents (hnumbers : ∀ item ∈ shelf.members container, item.position ≠ .nan) :
    (shelf.contents container).Pairwise fun a b => a.snapshot.le b.snapshot = true :=
  pairwise_orderBy hnumbers

/-- Members in order are the contents. -/
theorem contents_eq_of_perm (hperm : items.Perm (shelf.members container))
    (hnumbers : ∀ item ∈ shelf.members container, item.position ≠ .nan)
    (hordered : items.Pairwise fun a b => a.snapshot.le b.snapshot = true) :
    shelf.contents container = items := by
  refine orderBy_eq_of_perm hperm hnumbers ?_ hordered
  intro a ha b hb hid
  exact eq_of_id_eq (mem_members.mp ha).1 (mem_members.mp hb).1 hid

/-- Where only some members are left, they are left in their order. -/
theorem contents_eq_filter {keep : Item → Bool}
    (hmembers : other.members container = (shelf.members container).filter keep)
    (hnumbers : ∀ item ∈ shelf.members container, item.position ≠ .nan) :
    other.contents container = (shelf.contents container).filter keep := by
  apply contents_eq_of_perm
  · rw [hmembers]
    exact (shelf.contents_perm container).filter keep
  · intro item hitem
    rw [hmembers] at hitem
    exact hnumbers item (List.mem_of_mem_filter hitem)
  · exact (pairwise_contents hnumbers).filter keep

/-- A new item that no member stands behind comes last. -/
theorem contents_put_last (hnew : shelf.get? item.id = none)
    (hnumbers : ∀ other ∈ shelf.members item.container, other.position ≠ .nan)
    (hitem : item.position ≠ .nan)
    (hlast : ∀ other ∈ shelf.members item.container, other.snapshot.le item.snapshot = true) :
    (shelf.put item).contents item.container = shelf.contents item.container ++ [item] := by
  have hmembers := members_put_of_new hnew
  apply contents_eq_of_perm
  · rw [hmembers]
    exact (shelf.contents_perm item.container).append_right [item]
  · intro other hother
    rw [hmembers, List.mem_append, List.mem_singleton] at hother
    rcases hother with hother | rfl
    · exact hnumbers other hother
    · exact hitem
  · rw [List.pairwise_append]
    refine ⟨pairwise_contents hnumbers, List.pairwise_singleton _ _, ?_⟩
    intro other hother last hmem
    obtain rfl := List.mem_singleton.mp hmem
    exact hlast other ((shelf.contents_perm _).mem_iff.mp hother)

/-- The contents of a container without one item. -/
def others (shelf : Shelf) (container id : String) : List Item :=
  (shelf.contents container).filter fun other => decide (other.id ≠ id)

theorem mem_others {id : String} : item ∈ shelf.others container id ↔
    (item ∈ shelf.items ∧ item.container = container) ∧ item.id ≠ id := by
  rw [others, List.mem_filter, mem_contents, decide_eq_true_eq]

/-- An item in a slot of a container is a member of it beside the others. -/
theorem insertIdx_others_perm (keep : Item → Bool) {slot : Nat} (hitem : item ∈ shelf.items)
    (hslot : slot ≤ (shelf.others container item.id).length)
    (hkeep : ∀ other ∈ shelf.items,
      keep other = decide (other.id = item.id ∨ other.container = container)) :
    ((shelf.others container item.id).insertIdx slot item).Perm (shelf.items.filter keep) := by
  have hothers : (shelf.others container item.id).Nodup :=
    (List.Nodup.of_map Item.id (shelf.ids_contents_nodup container)).filter _
  have hfresh : item ∉ shelf.others container item.id := fun hmem => (mem_others.mp hmem).2 rfl
  refine (List.perm_insertIdx item _ hslot).trans
    ((List.perm_ext_iff_of_nodup (List.nodup_cons.mpr ⟨hfresh, hothers⟩)
      (shelf.items_nodup.filter _)).mpr ?_)
  intro other
  rw [List.mem_cons, mem_others, List.mem_filter]
  constructor
  · rintro (rfl | ⟨⟨hstored, hhere⟩, -⟩)
    · exact ⟨hitem, by rw [hkeep _ hitem]; simp⟩
    · exact ⟨hstored, by rw [hkeep _ hstored]; simp [hhere]⟩
  · rintro ⟨hstored, hkept⟩
    rw [hkeep _ hstored, decide_eq_true_eq] at hkept
    by_cases hid : other.id = item.id
    · exact Or.inl (eq_of_id_eq hstored hitem hid)
    · exact Or.inr ⟨⟨hstored, hkept.resolve_left hid⟩, hid⟩

/-- Repositioning that brings one item to a container and leaves all others where
they are: if the new positions increase strictly in some arrangement of the
container, that is its new order. -/
theorem contents_reposition {positions : Mapping Binary64} {containers : Mapping String}
    {slot : Nat} (hitem : item ∈ shelf.items)
    (hslot : slot ≤ (shelf.others container item.id).length)
    (hcontainer : ∀ other ∈ shelf.items, (other.reposition positions containers).container =
      if other.id = item.id then container else other.container)
    (hnumbers : ∀ other ∈ (shelf.others container item.id).insertIdx slot item,
      (other.reposition positions containers).position ≠ .nan)
    (hordered : ((shelf.others container item.id).insertIdx slot item).Pairwise fun a b =>
      (a.reposition positions containers).position.lt
        (b.reposition positions containers).position = true) :
    (shelf.reposition positions containers).contents container =
      ((shelf.others container item.id).insertIdx slot item).map
        (Item.reposition positions containers) := by
  have hperm := (insertIdx_others_perm (fun other =>
    decide ((other.reposition positions containers).container = container)) hitem hslot
    (by
      intro other hother
      rw [hcontainer _ hother]
      by_cases hid : other.id = item.id <;> simp [hid])).map
        (Item.reposition positions containers)
  rw [← members_reposition] at hperm
  apply contents_eq_of_perm hperm
  · intro other hother
    obtain ⟨before, hbefore, rfl⟩ := List.mem_map.mp (hperm.mem_iff.mpr hother)
    exact hnumbers before hbefore
  · rw [List.pairwise_map]
    exact hordered.imp fun hlt => Sibling.le_of_lt hlt

end Shelf

end Kanban
