/-
What a move makes of its target.  The batch that is planned puts the item into its
slot among the others: whether one position is written or the target renumbered,
the new positions increase strictly in the planned arrangement.
-/
import Mathlib.Data.List.InsertIdx
import Kanban.Proofs.Move.Undisturbed
import Kanban.Proofs.Ordering.Slots
import Kanban.Proofs.Store.Contents

namespace Kanban

open Binary64

variable {policy : MovePolicy} {kind : Kind} {request : MoveRequest} {store : Store}
  {item : Item} {move : PlannedMove} {toIndex : Int}

/-- The slot of the target that an index names, counted without the item. -/
def Store.slot (store : Store) (kind : Kind) (target id : String) (index : Int) : Nat :=
  clampIndex index ((store.shelf kind).others target id).length

/-- The target of a move with the item in its slot. -/
def Store.arrangement (store : Store) (kind : Kind) (target : String) (item : Item)
    (index : Int) : List Item :=
  ((store.shelf kind).others target item.id).insertIdx (store.slot kind target item.id index) item

theorem Store.slot_le (store : Store) (kind : Kind) (target id : String) (index : Int) :
    store.slot kind target id index ≤ ((store.shelf kind).others target id).length :=
  clampIndex_le _ _

theorem detach_view (store : Store) (kind : Kind) (target id : String) :
    detach (store.view kind target) id =
      ((store.shelf kind).others target id).map Item.snapshot := by
  unfold detach Store.view Store.contents
  rw [List.filter_map]
  rfl

theorem Store.clampIndex_detach (store : Store) (kind : Kind) (target id : String) (index : Int) :
    clampIndex index (detach (store.view kind target) id).length =
      store.slot kind target id index := by
  rw [detach_view, List.length_map]
  rfl

/-- Whatever is not asked to stay in the target is not told to stay. -/
theorem MoveRequest.fromIndex_within_ne {source : String}
    (hmoves : ¬ (source = request.target ∧ request.fromIndex = some toIndex)) :
    (request.within source).fromIndex ≠ some toIndex := by
  unfold MoveRequest.within
  split
  · rename_i hsame
    exact fun hfrom => hmoves ⟨hsame, hfrom⟩
  · simp

theorem mem_arrangement {other : Item} {target : String} {index : Int} :
    other ∈ store.arrangement kind target item index ↔
      other = item ∨ other ∈ (store.shelf kind).others target item.id := by
  unfold Store.arrangement
  exact List.mem_insertIdx (store.slot_le kind target item.id index)

theorem Store.ids_arrangement_nodup (store : Store) (kind : Kind) (target : String) (item : Item)
    (index : Int) : ((store.arrangement kind target item index).map Item.id).Nodup := by
  have hperm := List.perm_insertIdx item _ (store.slot_le kind target item.id index)
  refine (hperm.map Item.id).nodup_iff.mpr (List.nodup_cons.mpr ⟨?_, ?_⟩)
  · intro hmem
    obtain ⟨other, hother, hid⟩ := List.mem_map.mp hmem
    exact (Shelf.mem_others.mp hother).2 hid
  · exact ids_filter_nodup _ (Shelf.ids_contents_nodup _ _)

/-- The planned view, read off the stored items. -/
theorem planned_eq_arrangement (position : Binary64) :
    placeAt (detach (store.view kind request.target) item.id)
        (store.slot kind request.target item.id toIndex) (some item.snapshot) position
        request.target =
      (store.arrangement kind request.target item toIndex).map fun other =>
        if other.id = item.id then
          { item.snapshot with position := position, container := request.target }
        else other.snapshot := by
  rw [detach_view, Store.arrangement, List.map_insertIdx, if_pos rfl]
  refine congrArg (fun rest => List.insertIdx rest _ _) (List.map_congr_left ?_)
  intro other hother
  rw [if_neg (Shelf.mem_others.mp hother).2]

theorem ids_planned (position : Binary64) :
    (placeAt (detach (store.view kind request.target) item.id)
        (store.slot kind request.target item.id toIndex) (some item.snapshot) position
        request.target).map Sibling.id =
      (store.arrangement kind request.target item toIndex).map Item.id := by
  rw [planned_eq_arrangement, List.map_map]
  apply List.map_congr_left
  intro other _
  rw [Function.comp_apply]
  split
  · rename_i hid
    exact hid.symm
  · rfl

theorem storedView_planned (position : Binary64) :
    storedView (placeAt (detach (store.view kind request.target) item.id)
        (store.slot kind request.target item.id toIndex) (some item.snapshot) position
        request.target) item =
      (store.arrangement kind request.target item toIndex).map Item.snapshot := by
  rw [planned_eq_arrangement, storedView, List.map_map]
  apply List.map_congr_left
  intro other hother
  rw [Function.comp_apply]
  split
  · rename_i hid
    rcases mem_arrangement.mp hother with rfl | hrest
    · exact if_pos rfl
    · exact absurd hid (Shelf.mem_others.mp hrest).2
  · rename_i hid
    exact if_neg hid

/-- What is planned does not leave the item where it is. -/
theorem noop_of_planned {placement : Placement Binary64}
    (hplan : store.plan policy kind request item = .planned move)
    (hmove : planMove (store.view kind request.target) (request.within item.container)
      (some item.snapshot) = .ok placement) : placement.noop = false := by
  obtain ⟨found, hfound, hmoves, -⟩ := preparation_eq_planned_iff.mp hplan
  obtain rfl := Except.ok.inj (hmove.symm.trans hfound)
  obtain ⟨toIndex, -, ⟨entry, -, hfrom, rfl⟩ | ⟨-, position, -, rfl⟩⟩ :=
    planMove_eq_ok_iff.mp hmove
  · -- Only an item of the target can be told to stay at its index.
    have htarget : item.container = request.target := by
      by_contra hne
      rw [MoveRequest.within, if_neg hne] at hfrom
      cases hfrom
    exact absurd ⟨rfl, htarget⟩ hmoves
  · rfl

/-- A planned move puts the item into its slot of the view. -/
theorem plan_eq_planned (hid : item.id = request.id)
    (hplan : store.plan policy kind request item = .planned move) :
    ∃ placement toIndex,
      planMove (store.view kind request.target) (request.within item.container)
        (some item.snapshot) = .ok placement ∧
      request.toIndex = some toIndex ∧
      insertPosition (detach (store.view kind request.target) item.id) toIndex =
        .ok placement.position ∧
      placement.ordered = placeAt (detach (store.view kind request.target) item.id)
        (store.slot kind request.target item.id toIndex) (some item.snapshot)
        placement.position request.target ∧
      move = ⟨item, store.view kind request.target,
        store.expectedFor request.target (store.version kind request.target) kind item.container,
        placementPositions placement item policy.threshold,
        containerChanges item request.target⟩ := by
  obtain ⟨placement, hmove, hmoves, hplanned⟩ := preparation_eq_planned_iff.mp hplan
  have hnoop := noop_of_planned hplan hmove
  refine ⟨placement, ?_⟩
  obtain ⟨toIndex, hindex, ⟨entry, -, -, rfl⟩ | ⟨-, position, hposition, rfl⟩⟩ :=
    planMove_eq_ok_iff.mp hmove
  · cases hnoop
  · rw [MoveRequest.toIndex_within] at hindex
    rw [MoveRequest.id_within, ← hid] at hposition
    refine ⟨toIndex, hmove, hindex, hposition, ?_, hplanned⟩
    rw [MoveRequest.id_within, MoveRequest.target_within, ← hid, store.clampIndex_detach]
    rfl

/-- Writing the position of the slot. -/
theorem arrangement_of_position {position : Binary64} {containers : Mapping String}
    (hfinite : ∀ other ∈ (store.shelf kind).items, other.position.IsFinite)
    (hposition : position.IsFinite)
    (hordered : (placeAt (detach (store.view kind request.target) item.id)
        (store.slot kind request.target item.id toIndex) (some item.snapshot) position
        request.target).Pairwise fun a b => a.position.lt b.position = true) :
    ((store.arrangement kind request.target item toIndex).Pairwise fun a b =>
        (a.reposition [(item.id, position)] containers).position.lt
          (b.reposition [(item.id, position)] containers).position = true) ∧
      ∀ other ∈ store.arrangement kind request.target item toIndex,
        (other.reposition [(item.id, position)] containers).position.IsFinite := by
  have hplace (other : Item) : (other.reposition [(item.id, position)] containers).position =
      if other.id = item.id then position else other.position := by
    by_cases hid : other.id = item.id
    · simp [Item.reposition, Mapping.get?, hid]
    · simp [Item.reposition, Mapping.get?, hid, Ne.symm hid]
  constructor
  · rw [planned_eq_arrangement, List.pairwise_map] at hordered
    have hview (other : Item) :
        (if other.id = item.id then
            { item.snapshot with position := position, container := request.target }
          else other.snapshot).position =
          (other.reposition [(item.id, position)] containers).position := by
      rw [hplace]
      split
      · rfl
      · rfl
    simpa only [hview] using hordered
  · intro other hother
    rw [hplace]
    split
    · exact hposition
    · rename_i hne
      rcases mem_arrangement.mp hother with rfl | hrest
      · exact absurd rfl hne
      · exact hfinite other (Shelf.mem_others.mp hrest).1.1

/-- Renumbering puts every item of the arrangement at its index, counted from one. -/
theorem Store.position_renumbered {containers : Mapping String} {place : Nat} {other : Item}
    (hother : (store.arrangement kind request.target item toIndex)[place]? = some other) :
    (other.reposition (renormalize ((store.arrangement kind request.target item toIndex).map
      Item.snapshot)) containers).position = ofInt (place + 1 : Nat) := by
  have hview : ((store.arrangement kind request.target item toIndex).map
      Item.snapshot)[place]? = some other.snapshot := by
    rw [List.getElem?_map, hother]
    rfl
  have hids : (((store.arrangement kind request.target item toIndex).map Item.snapshot).map
      Sibling.id).Nodup := by
    rw [List.map_map]
    exact store.ids_arrangement_nodup kind request.target item toIndex
  exact position_renormalize hids hview

/-- Renumbering the target. -/
theorem arrangement_of_renormalize {containers : Mapping String}
    (hlength : (store.contents kind request.target).length < Nat.pow 2 53) :
    ((store.arrangement kind request.target item toIndex).Pairwise fun a b =>
        (a.reposition (renormalize ((store.arrangement kind request.target item toIndex).map
            Item.snapshot)) containers).position.lt
          (b.reposition (renormalize ((store.arrangement kind request.target item toIndex).map
            Item.snapshot)) containers).position = true) ∧
      ∀ other ∈ store.arrangement kind request.target item toIndex,
        (other.reposition (renormalize ((store.arrangement kind request.target item toIndex).map
          Item.snapshot)) containers).position.IsFinite := by
  have hcount : (store.arrangement kind request.target item toIndex).length ≤ Nat.pow 2 53 := by
    have hperm := List.perm_insertIdx item _ (store.slot_le kind request.target item.id toIndex)
    have hrest : ((store.shelf kind).others request.target item.id).length ≤
        (store.contents kind request.target).length := List.length_filter_le _ _
    have hall := hperm.length_eq
    rw [List.length_cons] at hall
    unfold Store.arrangement
    omega
  have hrank {place : Nat} {other : Item}
      (hother : (store.arrangement kind request.target item toIndex)[place]? = some other) :
      (other.reposition (renormalize ((store.arrangement kind request.target item toIndex).map
        Item.snapshot)) containers).position.rank =
          some (((place + 1 : Nat) : Int) * scale) := by
    have hplace := (List.getElem?_eq_some_iff.mp hother).1
    rw [store.position_renumbered hother]
    exact rank_ofInt_natCast (by omega)
  constructor
  · rw [List.pairwise_iff_getElem]
    intro low high hlow hhigh hlt
    rw [lt_of_rank (hrank (List.getElem?_eq_getElem hlow))
      (hrank (List.getElem?_eq_getElem hhigh)), decide_eq_true_eq]
    exact Int.mul_lt_mul_of_pos_right (by omega) scale_pos
  · intro other hother
    obtain ⟨place, hplace, rfl⟩ := List.getElem_of_mem hother
    exact isFinite_of_rank_count (by omega) (hrank (List.getElem?_eq_getElem hplace))

/-- An item that is asked to stay at its index of the target stays. -/
theorem Store.plan_of_staying (policy : MovePolicy) (hitem : item ∈ (store.shelf kind).items)
    (hid : item.id = request.id) (hindex : request.toIndex = some toIndex)
    (htarget : item.container = request.target) (hfrom : request.fromIndex = some toIndex) :
    store.plan policy kind request item = .ended (.moved item) := by
  have hentry : item.snapshot ∈ store.view kind request.target :=
    List.mem_map_of_mem (Shelf.mem_contents.mpr ⟨hitem, htarget⟩)
  have hsame : request.within item.container = request := if_pos htarget
  obtain ⟨current, hcurrent⟩ := exists_current hentry hid
  unfold Store.plan preparation
  rw [hsame, planMove_eq_ok_iff.mpr ⟨toIndex, hindex, Or.inl ⟨current, hcurrent, hfrom, rfl⟩⟩]
  exact if_pos ⟨rfl, htarget⟩

/-- Any other item within reach is planned into its slot. -/
theorem Store.plan_of_moving (hfinite : ∀ other ∈ (store.shelf kind).items, other.position.IsFinite)
    (hlength : (store.contents kind request.target).length < Nat.pow 2 53)
    (hthreshold : (zero false).lt policy.threshold = true) (hid : item.id = request.id)
    (hindex : request.toIndex = some toIndex)
    (hmoves : ¬ (item.container = request.target ∧ request.fromIndex = some toIndex)) :
    ∃ move, store.plan policy kind request item = .planned move ∧
      ((store.arrangement kind request.target item toIndex).Pairwise fun a b =>
        (a.reposition move.batch.positions move.batch.containers).position.lt
          (b.reposition move.batch.positions move.batch.containers).position = true) ∧
      ∀ other ∈ store.arrangement kind request.target item toIndex,
        (other.reposition move.batch.positions move.batch.containers).position.IsFinite := by
  have hview : ∀ other ∈ store.view kind request.target, other.position.IsFinite := by
    intro other hother
    obtain ⟨stored, hstored, rfl⟩ := List.mem_map.mp hother
    exact hfinite stored (Shelf.mem_contents.mp hstored).1
  have hwithin : item.snapshot.id = (request.within item.container).id :=
    hid.trans (request.id_within item.container).symm
  obtain ⟨placement, hplan, hnoop, hordered, hwide⟩ := exists_plan hview hthreshold
    ((request.toIndex_within item.container).trans hindex)
    (MoveRequest.fromIndex_within_ne hmoves) hwithin
  rw [MoveRequest.target_within, show item.snapshot.id = item.id from rfl,
    store.clampIndex_detach] at hordered
  refine ⟨_, preparation_eq_planned_iff.mpr ⟨placement, hplan, by simp [hnoop], rfl⟩, ?_⟩
  dsimp only
  unfold placementPositions
  cases hneeds : needsRenormalization placement.ordered policy.threshold with
  | true =>
      rw [if_pos rfl, hordered, storedView_planned]
      exact arrangement_of_renormalize hlength
  | false =>
      obtain ⟨hposition, hincreasing⟩ := hwide hneeds
      rw [hordered] at hincreasing
      rw [if_neg Bool.false_ne_true]
      exact arrangement_of_position hfinite hposition hincreasing

end Kanban
