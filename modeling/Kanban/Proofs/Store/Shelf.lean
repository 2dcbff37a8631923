/-
What each operation does to the members of a container.  An operation that
neither takes an item from a container nor puts one there leaves its members as
they are, in the order in which they were stored.
-/
import Mathlib.Data.List.Basic
import Mathlib.Data.List.Nodup
import Kanban.Store.Change

namespace Kanban

theorem filter_putItem_of_not_keep {keep : Item → Bool} {item : Item} {items : List Item}
    (hnew : keep item = false) (hold : ∀ other ∈ items, other.id = item.id → keep other = false) :
    (putItem item items).filter keep = items.filter keep := by
  induction items with
  | nil => simp [putItem, hnew]
  | cons other rest ih =>
      have hrest := ih fun x hx => hold x (List.mem_cons_of_mem other hx)
      by_cases hid : other.id = item.id
      · simp [putItem, hid, hnew, hold other List.mem_cons_self hid]
      · simp [putItem, hid, List.filter_cons, hrest]

theorem putItem_of_new {item : Item} {items : List Item}
    (hnew : ∀ other ∈ items, other.id ≠ item.id) : putItem item items = items ++ [item] := by
  induction items with
  | nil => rfl
  | cons other rest ih =>
      rw [putItem, if_neg (hnew other List.mem_cons_self), List.cons_append,
        ih fun x hx => hnew x (List.mem_cons_of_mem other hx)]

theorem mem_putItem {item x : Item} {items : List Item}
    (hnodup : (items.map Item.id).Nodup) :
    x ∈ putItem item items ↔ x = item ∨ (x ∈ items ∧ x.id ≠ item.id) := by
  induction items with
  | nil => simp [putItem]
  | cons other rest ih =>
      simp only [List.map_cons, List.nodup_cons, List.mem_map, not_exists, not_and] at hnodup
      by_cases hid : other.id = item.id
      · rw [putItem, if_pos hid, List.mem_cons, List.mem_cons]
        constructor
        · rintro (heq | hx)
          · exact Or.inl heq
          · exact Or.inr ⟨Or.inr hx, fun h => hnodup.1 x hx (h.trans hid.symm)⟩
        · rintro (heq | ⟨rfl | hx, hne⟩)
          · exact Or.inl heq
          · exact absurd hid hne
          · exact Or.inr hx
      · rw [putItem, if_neg hid, List.mem_cons, ih hnodup.2, List.mem_cons]
        constructor
        · rintro (rfl | heq | ⟨hx, hne⟩)
          · exact Or.inr ⟨Or.inl rfl, hid⟩
          · exact Or.inl heq
          · exact Or.inr ⟨Or.inr hx, hne⟩
        · rintro (heq | ⟨rfl | hx, hne⟩)
          · exact Or.inr (Or.inl heq)
          · exact Or.inl rfl
          · exact Or.inr (Or.inr ⟨hx, hne⟩)

/-- An item that nothing names stays as it is. -/
theorem Item.reposition_of_not_mem {positions : Mapping Binary64}
    {containers : Mapping String} {item : Item} (hposition : item.id ∉ positions.keys)
    (hcontainer : item.id ∉ containers.keys) :
    item.reposition positions containers = item := by
  rw [Item.reposition, Mapping.get?_eq_none_iff.mpr hposition,
    Mapping.get?_eq_none_iff.mpr hcontainer]
  rfl

namespace Shelf

variable {shelf : Shelf} {item : Item} {id container : String}

/-- The items of a container, in the order in which they were stored. -/
def members (shelf : Shelf) (container : String) : List Item :=
  shelf.items.filter fun item => decide (item.container = container)

theorem contents_eq (shelf : Shelf) (container : String) :
    shelf.contents container = orderItems (shelf.members container) :=
  rfl

@[simp] theorem mem_members : item ∈ shelf.members container ↔
    item ∈ shelf.items ∧ item.container = container := by
  simp [members]

@[simp] theorem mem_contents : item ∈ shelf.contents container ↔
    item ∈ shelf.items ∧ item.container = container := by
  rw [contents_eq, orderItems, mem_orderBy, mem_members]

theorem items_nodup (shelf : Shelf) : shelf.items.Nodup :=
  List.Nodup.of_map Item.id shelf.ids_nodup

theorem eq_of_id_eq {other : Item} (hitem : item ∈ shelf.items) (hother : other ∈ shelf.items)
    (hid : item.id = other.id) : item = other :=
  List.inj_on_of_nodup_map shelf.ids_nodup hitem hother hid

theorem get?_eq_some_iff : shelf.get? id = some item ↔ item ∈ shelf.items ∧ item.id = id := by
  constructor
  · intro hget
    exact ⟨List.mem_of_find?_eq_some hget, by simpa using List.find?_some hget⟩
  · rintro ⟨hitem, rfl⟩
    cases hfind : shelf.get? item.id with
    | none => simpa using List.find?_eq_none.mp hfind item hitem
    | some found =>
        have hid : found.id = item.id := by simpa using List.find?_some hfind
        rw [eq_of_id_eq (List.mem_of_find?_eq_some hfind) hitem hid]

theorem get?_eq_none_iff : shelf.get? id = none ↔ ∀ item ∈ shelf.items, item.id ≠ id := by
  simp [Shelf.get?]

@[simp] theorem members_bump (containers : List String) :
    (shelf.bump containers).members container = shelf.members container :=
  rfl

@[simp] theorem get?_bump (containers : List String) :
    (shelf.bump containers).get? id = shelf.get? id :=
  rfl

theorem versions_bump (containers : List String) :
    (shelf.bump containers).versions container =
      if container ∈ containers then shelf.versions container + 1
      else shelf.versions container :=
  rfl

/-- Storing an item leaves the containers alone in which neither it nor the one
it replaces stands. -/
theorem members_put_of_ne (hnew : item.container ≠ container)
    (hold : ∀ previous, shelf.get? item.id = some previous → previous.container ≠ container) :
    (shelf.put item).members container = shelf.members container := by
  apply filter_putItem_of_not_keep
  · simpa using hnew
  · intro other hother hid
    simpa using hold other (get?_eq_some_iff.mpr ⟨hother, hid⟩)

theorem mem_put {x : Item} : x ∈ (shelf.put item).items ↔
    x = item ∨ (x ∈ shelf.items ∧ x.id ≠ item.id) :=
  mem_putItem shelf.ids_nodup

theorem get?_put :
    (shelf.put item).get? id = if id = item.id then some item else shelf.get? id := by
  split
  · rename_i hid
    exact get?_eq_some_iff.mpr ⟨mem_put.mpr (Or.inl rfl), hid.symm⟩
  · rename_i hid
    cases hget : shelf.get? id with
    | none =>
        rw [get?_eq_none_iff] at hget ⊢
        intro other hother
        rcases mem_put.mp hother with rfl | ⟨hother, -⟩
        · exact Ne.symm hid
        · exact hget other hother
    | some found =>
        obtain ⟨hfound, rfl⟩ := get?_eq_some_iff.mp hget
        exact get?_eq_some_iff.mpr ⟨mem_put.mpr (Or.inr ⟨hfound, hid⟩), rfl⟩

theorem mem_erase : item ∈ (shelf.erase id).items ↔ item ∈ shelf.items ∧ item.id ≠ id := by
  simp [Shelf.erase]

theorem get?_erase {other : String} :
    (shelf.erase id).get? other = if other = id then none else shelf.get? other := by
  split
  · rename_i hid
    rw [get?_eq_none_iff]
    intro item hitem
    rw [hid]
    exact (mem_erase.mp hitem).2
  · rename_i hid
    cases hget : shelf.get? other with
    | none =>
        rw [get?_eq_none_iff] at hget ⊢
        intro item hitem
        exact hget item (mem_erase.mp hitem).1
    | some found =>
        obtain ⟨hfound, rfl⟩ := get?_eq_some_iff.mp hget
        exact get?_eq_some_iff.mpr ⟨mem_erase.mpr ⟨hfound, hid⟩, rfl⟩

theorem members_put_of_new (hnew : shelf.get? item.id = none) :
    (shelf.put item).members item.container = shelf.members item.container ++ [item] := by
  change (putItem item shelf.items).filter _ = _
  rw [putItem_of_new (get?_eq_none_iff.mp hnew), List.filter_append]
  simp [members]

theorem members_erase :
    (shelf.erase id).members container =
      (shelf.members container).filter fun item => decide (item.id ≠ id) := by
  simp only [members, Shelf.erase, List.filter_filter, Bool.and_comm]

theorem members_erase_of_ne (hitem : shelf.get? id = some item)
    (hne : item.container ≠ container) :
    (shelf.erase id).members container = shelf.members container := by
  rw [members_erase, List.filter_eq_self]
  intro other hother
  rw [decide_eq_true_eq]
  rintro rfl
  obtain ⟨hstored, rfl⟩ := mem_members.mp hother
  obtain ⟨hmem, hid⟩ := get?_eq_some_iff.mp hitem
  exact hne (by rw [eq_of_id_eq hmem hstored hid])

theorem members_reposition (positions : Mapping Binary64) (containers : Mapping String) :
    (shelf.reposition positions containers).members container =
      (shelf.items.filter fun item =>
        decide ((item.reposition positions containers).container = container)).map
        (Item.reposition positions containers) := by
  rw [members, Shelf.reposition, List.filter_map]
  rfl

theorem get?_reposition (positions : Mapping Binary64) (containers : Mapping String) :
    (shelf.reposition positions containers).get? id =
      (shelf.get? id).map (Item.reposition positions containers) := by
  unfold Shelf.get? Shelf.reposition
  rw [List.find?_map]
  rfl

/-- An item that is brought to another container is all that is missing where the
others stay as they are. -/
theorem members_reposition_of_left {positions : Mapping Binary64}
    {containers : Mapping String} {target : String}
    (hcontainer : ∀ other ∈ shelf.items, (other.reposition positions containers).container =
      if other.id = id then target else other.container)
    (hkept : ∀ other ∈ shelf.items, other.id ≠ id → other.container = container →
      other.reposition positions containers = other)
    (hne : target ≠ container) :
    (shelf.reposition positions containers).members container =
      (shelf.members container).filter fun other => decide (other.id ≠ id) := by
  have hleft : (shelf.items.filter fun other =>
      decide ((other.reposition positions containers).container = container)) =
        (shelf.members container).filter fun other => decide (other.id ≠ id) := by
    rw [members, List.filter_filter]
    apply List.filter_congr
    intro other hother
    rw [hcontainer other hother]
    by_cases hid : other.id = id
    · simp [hid, hne]
    · simp [hid]
  rw [members_reposition, hleft]
  refine (List.map_congr_left ?_).trans (List.map_id _)
  intro other hother
  rw [List.mem_filter, mem_members, decide_eq_true_eq] at hother
  exact hkept other hother.1.1 hother.2 hother.1.2

/-- Repositioning leaves the containers alone that no named item stands in or
moves into. -/
theorem members_reposition_of_not_mem {positions : Mapping Binary64}
    {containers : Mapping String}
    (hnamed : ∀ item ∈ shelf.items, item.id ∈ positions.keys ∨ item.id ∈ containers.keys →
      item.container ≠ container)
    (hinto : ∀ entry ∈ containers, entry.2 ≠ container) :
    (shelf.reposition positions containers).members container = shelf.members container := by
  have hsame (item : Item) (hitem : item ∈ shelf.items) (hhere : item.container = container) :
      item.reposition positions containers = item := by
    have hfree := mt (hnamed item hitem) (not_not.mpr hhere)
    rw [not_or] at hfree
    exact Item.reposition_of_not_mem hfree.1 hfree.2
  have hkept : (shelf.items.filter fun item =>
      decide ((item.reposition positions containers).container = container)) =
        shelf.members container := by
    apply List.filter_congr
    intro item hitem
    rw [decide_eq_decide]
    constructor
    · intro hafter
      cases hget : Mapping.get? item.id containers with
      | none => simpa [Item.reposition, hget] using hafter
      | some target =>
          refine absurd ?_ (hinto _ (Mapping.mem_of_get?_eq_some hget))
          simpa [Item.reposition, hget] using hafter
    · intro hhere
      rw [hsame item hitem hhere]
      exact hhere
  rw [members_reposition, hkept]
  refine (List.map_congr_left ?_).trans (List.map_id _)
  intro item hitem
  obtain ⟨hstored, hhere⟩ := mem_members.mp hitem
  exact hsame item hstored hhere

end Shelf

namespace Store

variable {store : Store} {kind : Kind} {container : String}

/-- The items of a container, in the order in which they were stored. -/
def members (store : Store) (kind : Kind) (container : String) : List Item :=
  (store.shelf kind).members container

theorem mem_members_iff {id : String} {item : Item} :
    store.get? kind id = some item ∧ item.container = container ↔
      item ∈ store.members kind container ∧ item.id = id := by
  rw [get?, Shelf.get?_eq_some_iff, members, Shelf.mem_members]
  exact and_right_comm

theorem contents_eq_of_members_eq {other : Store}
    (heq : store.members kind container = other.members kind container) :
    store.contents kind container = other.contents kind container :=
  congrArg orderItems heq

theorem view_eq_of_members_eq {other : Store}
    (heq : store.members kind container = other.members kind container) :
    store.view kind container = other.view kind container :=
  congrArg (List.map Item.snapshot) (contents_eq_of_members_eq heq)

@[simp] theorem shelf_takeNumber (kind : Kind) :
    store.takeNumber.shelf kind = store.shelf kind := by
  cases kind <;> rfl

end Store

end Kanban
