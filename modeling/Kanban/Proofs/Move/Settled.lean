/-
Items that are where a move would put them.  The slot and the position that are
planned for such an item are the ones it has, and where its container would be
renumbered, the numbers are there already.  So the batch that is planned for it writes
nothing new, and only versions count the move.
-/
import Kanban.Proofs.Binary64.Whole
import Kanban.Proofs.Move.Arrangement

namespace Kanban

open Binary64

variable {policy : MovePolicy} {kind : Kind} {request : MoveRequest} {store : Store}
  {item : Item} {move : PlannedMove} {toIndex : Int}

/-- The arrangement of the target as it is planned, with the item at its new position. -/
def Store.planned (store : Store) (kind : Kind) (target : String) (item : Item) (index : Int)
    (position : Binary64) : List (Sibling Binary64) :=
  (store.arrangement kind target item index).map fun other =>
    if other.id = item.id then { item.snapshot with position := position, container := target }
    else other.snapshot

/-- The position for an item in its slot of the target. -/
def Store.place (store : Store) (kind : Kind) (target id : String) (index : Int) :
    Except NotFinite Binary64 :=
  insertPosition (((store.shelf kind).others target id).map Item.snapshot) index

/-- The new positions that a planned position leads to. -/
def Store.updates (store : Store) (threshold : Binary64) (kind : Kind) (target : String)
    (item : Item) (index : Int) (position : Binary64) : Mapping Binary64 :=
  if needsRenormalization (store.planned kind target item index position) threshold then
    renormalize ((store.arrangement kind target item index).map Item.snapshot)
  else [(item.id, position)]

theorem placementPositions_planned {placement : Placement Binary64} {threshold : Binary64}
    (hordered : placement.ordered = placeAt (detach (store.view kind request.target) item.id)
      (store.slot kind request.target item.id toIndex) (some item.snapshot) placement.position
      request.target) :
    placementPositions placement item threshold =
      store.updates threshold kind request.target item toIndex placement.position := by
  unfold placementPositions Store.updates Store.planned
  rw [hordered, storedView_planned, planned_eq_arrangement]

/-- What is planned for an item that is not told to stay. -/
theorem Store.plan_eq_planned_iff (hitem : item ∈ (store.shelf kind).items)
    (hid : item.id = request.id) (hindex : request.toIndex = some toIndex) :
    store.plan policy kind request item = .planned move ↔
      ¬ (item.container = request.target ∧ request.fromIndex = some toIndex) ∧
        ∃ position, store.place kind request.target item.id toIndex = .ok position ∧
          move = ⟨item, store.view kind request.target,
            store.expectedFor request.target (store.version kind request.target) kind
              item.container,
            store.updates policy.threshold kind request.target item toIndex position,
            containerChanges item request.target⟩ := by
  unfold Store.place
  rw [← detach_view]
  constructor
  · intro hplan
    obtain ⟨placement, index, -, hfound, hposition, hordered, rfl⟩ := plan_eq_planned hid hplan
    obtain rfl := Option.some.inj (hindex.symm.trans hfound)
    refine ⟨?_, placement.position, hposition, ?_⟩
    · rintro ⟨htarget, hfrom⟩
      rw [Store.plan_of_staying policy hitem hid hindex htarget hfrom] at hplan
      cases hplan
    · rw [placementPositions_planned hordered]
  · rintro ⟨hmoves, position, hposition, rfl⟩
    have hwithin : item.snapshot.id = (request.within item.container).id :=
      hid.trans (request.id_within item.container).symm
    obtain ⟨placement, hplan, hnoop, rfl, hordered⟩ := exists_planMove_of_position
      ((request.toIndex_within item.container).trans hindex)
      (MoveRequest.fromIndex_within_ne hmoves) hwithin hposition
    rw [MoveRequest.target_within, show item.snapshot.id = item.id from rfl,
      store.clampIndex_detach] at hordered
    refine preparation_eq_planned_iff.mpr ⟨placement, hplan, by simp [hnoop], ?_⟩
    rw [placementPositions_planned hordered]

/-- Items that stand at their indices, counted from one. -/
def Numbered (items : List Item) : Prop :=
  ∀ place other, items[place]? = some other → other.position = ofInt (place + 1 : Nat)

/-- An item that is where a move would put it. -/
structure Store.Settled (store : Store) (threshold : Binary64) (kind : Kind) (target : String)
    (index : Int) (item : Item) : Prop where
  stored : item ∈ (store.shelf kind).items
  container : item.container = target
  arranged : store.arrangement kind target item index = store.contents kind target
  placed : store.place kind target item.id index = .ok item.position
  numbered : needsRenormalization (store.view kind target) threshold = true →
    Numbered (store.contents kind target)

/-- The same items under the same counter; only versions may have grown. -/
structure Store.SameItems (before after : Store) : Prop where
  counter : after.counter = before.counter
  items : ∀ kind, (after.shelf kind).items = (before.shelf kind).items
  versions : ∀ kind container, before.version kind container ≤ after.version kind container

theorem Store.SameItems.refl (store : Store) : store.SameItems store :=
  ⟨rfl, fun _ => rfl, fun _ _ => Nat.le_refl _⟩

theorem Store.sameItems_withShelf {shelf : Shelf} {containers : List String}
    (hitems : shelf.items = (store.shelf kind).items)
    (hversions : shelf.versions = (store.shelf kind).versions) :
    store.SameItems (store.withShelf kind (shelf.bump containers)) where
  counter := store.counter_withShelf kind _
  items := by
    intro other
    by_cases hkind : other = kind
    · subst hkind
      rw [Store.shelf_withShelf_self]
      exact hitems
    · rw [Store.shelf_withShelf_of_ne _ hkind]
  versions := by
    intro other container
    unfold Store.version
    by_cases hkind : other = kind
    · subst hkind
      rw [Store.shelf_withShelf_self, Shelf.versions_bump, hversions]
      split <;> omega
    · refine Nat.le_of_eq ?_
      rw [Store.shelf_withShelf_of_ne _ hkind]

theorem Item.reposition_eq_self {positions : Mapping Binary64}
    (hposition : (Mapping.get? item.id positions).getD item.position = item.position) :
    item.reposition positions [] = item := by
  rw [Item.reposition, hposition]
  rfl

namespace Store.Settled

variable {threshold : Binary64} {target : String} {index : Int}

/-- What is planned for a settled item is the view as it is. -/
theorem planned_eq (hsettled : store.Settled threshold kind target index item) :
    store.planned kind target item index item.position = store.view kind target := by
  unfold Store.planned Store.view
  rw [hsettled.arranged]
  apply List.map_congr_left
  intro other hother
  split
  · rename_i hid
    rw [Shelf.eq_of_id_eq (Shelf.mem_contents.mp hother).1 hsettled.stored hid,
      ← hsettled.container]
    rfl
  · rfl

/-- The batch that is planned for a settled item leaves every item as it is. -/
theorem reposition_eq (hsettled : store.Settled threshold kind target index item) {other : Item}
    (hother : other ∈ (store.shelf kind).items) :
    other.reposition (store.updates threshold kind target item index item.position)
      (containerChanges item target) = other := by
  rw [containerChanges, if_pos hsettled.container, Store.updates, hsettled.planned_eq,
    hsettled.arranged]
  apply Item.reposition_eq_self
  cases hneeds : needsRenormalization (store.view kind target) threshold with
  | true =>
      rw [if_pos rfl]
      change (Mapping.get? other.id (renormalize (store.view kind target))).getD _ = _
      by_cases hhere : other.container = target
      · obtain ⟨place, hplace⟩ := List.mem_iff_getElem?.mp
          (Shelf.mem_contents.mpr ⟨hother, hhere⟩)
        have hview : (store.view kind target)[place]? = some other.snapshot := by
          rw [Store.view, List.getElem?_map]
          exact congrArg _ hplace
        have hids : ((store.view kind target).map Sibling.id).Nodup := by
          rw [Store.view, List.map_map]
          exact (store.shelf kind).ids_contents_nodup target
        exact (position_renormalize hids hview).trans
          (hsettled.numbered hneeds place other hplace).symm
      · rw [Mapping.get?_eq_none_iff.mpr, Option.getD_none]
        intro hmem
        obtain ⟨entry, hentry, hid⟩ := List.mem_map.mp (keys_renormalize_subset _ hmem)
        obtain ⟨found, hfound, rfl⟩ := List.mem_map.mp hentry
        obtain ⟨hstored, hcontainer⟩ := Shelf.mem_contents.mp hfound
        exact hhere (by rw [← Shelf.eq_of_id_eq hstored hother hid, hcontainer])
  | false =>
      rw [if_neg Bool.false_ne_true]
      by_cases hid : item.id = other.id
      · rw [Shelf.eq_of_id_eq hsettled.stored hother hid]
        simp [Mapping.get?]
      · simp [Mapping.get?, hid]

/-- Moving a settled item succeeds and changes nothing but versions. -/
theorem move_again (hretries : 0 ≤ policy.maxRetries) (hid : item.id = request.id)
    (hindex : request.toIndex = some toIndex)
    (hsettled : store.Settled policy.threshold kind request.target toIndex item) :
    ∃ after, store.move policy kind request = (after, .ok item) ∧ store.SameItems after := by
  have hgiven : request.toIndex ≠ none := by simp [hindex]
  have hload : store.load kind request = .ok item :=
    load_eq_ok_iff.mpr ⟨Shelf.get?_eq_some_iff.mpr ⟨hsettled.stored, hid⟩,
      fun _ => hsettled.container⟩
  by_cases hstays : request.fromIndex = some toIndex
  · have hplan := Store.plan_of_staying policy hsettled.stored hid hindex hsettled.container hstays
    exact ⟨store, (Store.move_of_ended hretries hgiven hload hplan).1 item rfl, .refl store⟩
  · have hmove := Store.move_of_planned hretries hgiven hload
      ((Store.plan_eq_planned_iff hsettled.stored hid hindex).mpr
        ⟨fun hboth => hstays hboth.2, item.position, hsettled.placed, rfl⟩)
    dsimp only at hmove
    rw [hsettled.reposition_eq hsettled.stored] at hmove
    refine ⟨_, hmove, Store.sameItems_withShelf ?_ rfl⟩
    exact (List.map_congr_left fun other hother => hsettled.reposition_eq hother).trans
      (List.map_id _)

end Store.Settled

end Kanban
