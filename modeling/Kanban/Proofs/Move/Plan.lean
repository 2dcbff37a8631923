/-
The plan of a move.  It depends on the item, the view of the target and the
expected versions alone, names only the item and entries of the view, and counts
every container that it changes.
-/
import Mathlib.Data.List.Basic
import Kanban.Move.Basic
import Kanban.Proofs.Ordering.Planning
import Kanban.Proofs.Store.Versions

namespace Kanban

section

variable (request : MoveRequest) (source : String)

@[simp] theorem MoveRequest.id_within : (request.within source).id = request.id := by
  unfold MoveRequest.within
  split <;> rfl

@[simp] theorem MoveRequest.toIndex_within :
    (request.within source).toIndex = request.toIndex := by
  unfold MoveRequest.within
  split <;> rfl

@[simp] theorem MoveRequest.target_within :
    (request.within source).target = request.target := by
  unfold MoveRequest.within
  split <;> rfl

end

/-- What an attempt works out from the item, the view of the target and the
expected versions. -/
def preparation (policy : MovePolicy) (request : MoveRequest) (item : Item)
    (view : List (Sibling Binary64)) (expected : Mapping Int) : Preparation :=
  match planMove view (request.within item.container) (some item.snapshot) with
  | .error (.noTarget id) => .ended (.failed (.noTarget id))
  | .error (.noRoom cause) => .ended (.failed (.noRoom cause))
  | .ok placement =>
      if placement.noop ∧ item.container = request.target then .ended (.moved item)
      else .planned ⟨item, view, expected, placementPositions placement item policy.threshold,
        containerChanges item request.target⟩

variable {policy : MovePolicy} {kind : Kind} {request : MoveRequest} {store : Store}
  {item : Item} {view : List (Sibling Binary64)} {expected : Mapping Int} {move : PlannedMove}

theorem preparation_eq_planned_iff :
    preparation policy request item view expected = .planned move ↔
      ∃ placement,
        planMove view (request.within item.container) (some item.snapshot) = .ok placement ∧
        ¬ (placement.noop ∧ item.container = request.target) ∧
        move = ⟨item, view, expected, placementPositions placement item policy.threshold,
          containerChanges item request.target⟩ := by
  unfold preparation
  cases planMove view (request.within item.container) (some item.snapshot) with
  | error cause => cases cause <;> simp
  | ok placement =>
      dsimp only
      split
      · rename_i hnoop
        constructor
        · intro heq
          cases heq
        · rintro ⟨_, heq, hnot, -⟩
          cases heq
          exact absurd hnoop hnot
      · rename_i hnoop
        constructor
        · intro heq
          cases heq
          exact ⟨placement, rfl, hnoop, rfl⟩
        · rintro ⟨_, heq, -, rfl⟩
          cases heq
          rfl

/-- A preparation that ends leaves the item where it is, or could not be planned. -/
theorem preparation_eq_ended {ending : AttemptEnd}
    (hplan : preparation policy request item view expected = .ended ending) :
    (ending = .moved item ∧ item.container = request.target ∧
        ∃ placement,
          planMove view (request.within item.container) (some item.snapshot) = .ok placement ∧
            placement.noop = true) ∨
      ∃ reason cause,
        planMove view (request.within item.container) (some item.snapshot) = .error reason ∧
          ending = .failed cause := by
  unfold preparation at hplan
  cases hmove : planMove view (request.within item.container) (some item.snapshot) with
  | error reason =>
      right
      rw [hmove] at hplan
      cases reason with
      | noTarget id =>
          cases hplan
          exact ⟨_, _, rfl, rfl⟩
      | noRoom cause =>
          cases hplan
          exact ⟨_, _, rfl, rfl⟩
  | ok placement =>
      left
      rw [hmove] at hplan
      dsimp only at hplan
      split at hplan
      · rename_i hnoop
        cases hplan
        exact ⟨rfl, hnoop.2, placement, rfl, hnoop.1⟩
      · cases hplan

theorem load_eq_ok_iff {store : Store} :
    store.load kind request = .ok item ↔
      store.get? kind request.id = some item ∧
        (kind = .list → item.container = request.target) := by
  unfold Store.load
  cases hget : store.get? kind request.id with
  | none => simp
  | some found =>
      simp only [Option.some.injEq]
      split
      · rename_i hother
        simp only [reduceCtorEq, false_iff, not_and]
        rintro rfl hboard
        exact hother.2 (hboard hother.1)
      · rename_i hboard
        simp only [Except.ok.injEq, iff_self_and]
        rintro rfl hlist
        by_contra hne
        exact hboard ⟨hlist, hne⟩

/-- The versions that a move is written under: the target's, and the source's if
it is another container. -/
def Store.expectedFor (target : String) (version : Nat) (store : Store) (kind : Kind)
    (source : String) : Mapping Int :=
  if source = target then [(target, (version : Int))]
  else [(target, (version : Int)), (source, (store.version kind source : Int))]

theorem mem_keys_placementPositions {placement : Placement Binary64} {item : Item}
    {threshold : Binary64} {id : String}
    (hid : id ∈ (placementPositions placement item threshold).keys) :
    id = item.id ∨ ∃ entry ∈ placement.ordered, entry.id = id := by
  unfold placementPositions at hid
  split at hid
  · obtain ⟨entry, hentry, rfl⟩ := List.mem_map.mp (keys_renormalize_subset id hid)
    obtain ⟨planned, hplanned, rfl⟩ := List.mem_map.mp hentry
    split
    · exact Or.inl rfl
    · exact Or.inr ⟨planned, hplanned, rfl⟩
  · exact Or.inl (by simpa [Mapping.keys] using hid)

theorem mem_containerChanges {item : Item} {target : String} {entry : String × String}
    (hentry : entry ∈ containerChanges item target) :
    entry = (item.id, target) ∧ item.container ≠ target := by
  unfold containerChanges at hentry
  split at hentry
  · simp at hentry
  · rename_i hne
    exact ⟨by simpa using hentry, hne⟩

theorem keys_expectedFor (target : String) (version : Nat) (store : Store) (kind : Kind)
    (source : String) (container : String) :
    container ∈ (store.expectedFor target version kind source).keys ↔
      container = target ∨ container = source := by
  unfold Store.expectedFor
  split
  · rename_i heq
    simp [Mapping.keys, heq]
  · simp [Mapping.keys]

/-- A planned batch names only the moved item and entries of the view, and moves
only that item. -/
theorem preparation_batch {item : Item} {view : List (Sibling Binary64)} {expected : Mapping Int}
    {move : PlannedMove}
    (hplan : preparation policy request item view expected = .planned move) :
    move.item = item ∧ move.view = view ∧ move.batch.expected = expected ∧
      move.batch.containers = containerChanges item request.target ∧
      ∀ id ∈ move.batch.positions.keys, id = item.id ∨ ∃ entry ∈ view, entry.id = id := by
  obtain ⟨placement, hmove, -, rfl⟩ := preparation_eq_planned_iff.mp hplan
  refine ⟨rfl, rfl, rfl, rfl, ?_⟩
  intro id hid
  rcases mem_keys_placementPositions hid with hitem | ⟨entry, hentry, hid⟩
  · exact Or.inl hitem
  · rcases planMove_ordered hmove hentry with hmoved | hseen
    · exact Or.inl (hid.symm.trans hmoved)
    · exact Or.inr ⟨entry, hseen, hid⟩

/-- An item that is neither moved nor in the target is not named. -/
theorem not_named_of_preparation {other : Item}
    (hplan : preparation policy request item (store.view kind request.target) expected =
      .planned move)
    (hother : other ∈ (store.shelf kind).items) (hid : other.id ≠ item.id)
    (htarget : other.container ≠ request.target) :
    other.id ∉ move.batch.positions.keys ∧ other.id ∉ move.batch.containers.keys := by
  obtain ⟨-, -, -, hcontainers, hpositions⟩ := preparation_batch hplan
  constructor
  · intro hposition
    rcases hpositions other.id hposition with hitem | ⟨entry, hentry, hkey⟩
    · exact hid hitem
    · obtain ⟨member, hmember, rfl⟩ := List.mem_map.mp hentry
      obtain ⟨hin, hhere⟩ := Shelf.mem_contents.mp hmember
      exact htarget (by rw [Shelf.eq_of_id_eq hother hin hkey.symm, hhere])
  · rw [hcontainers]
    intro hcontainer
    obtain ⟨entry, hentry, hkey⟩ := List.mem_map.mp hcontainer
    exact hid (by rw [← hkey, (mem_containerChanges hentry).1])

theorem container_of_preparation {other : Item}
    (hplan : preparation policy request item view expected = .planned move)
    (hsource : other.id = item.id → other.container = item.container) :
    (other.reposition move.batch.positions move.batch.containers).container =
      if other.id = item.id then request.target else other.container := by
  obtain ⟨-, -, -, hcontainers, -⟩ := preparation_batch hplan
  rw [hcontainers, Item.reposition, containerChanges]
  by_cases hid : other.id = item.id
  · by_cases hsame : item.container = request.target
    · simp [hid, hsame, Mapping.get?, hsource hid]
    · simp [hid, hsame, Mapping.get?]
  · by_cases hsame : item.container = request.target
    · simp [hid, hsame, Mapping.get?]
    · simp [hid, hsame, Mapping.get?, Ne.symm hid]

/-- Writing a planned batch: the item arrives in the target, and whatever else
changes belongs to a container that counts the write. -/
theorem written_of_preparation {found : Item} {written : Store}
    (hplan : preparation policy request item (store.view kind request.target) expected =
      .planned move)
    (hfound : store.get? kind item.id = some found) (hsource : found.container = item.container)
    (hwritten : store.writePositions kind move.batch = .ok written) :
    (∃ moved, written.get? kind item.id = some moved ∧ moved.container = request.target) ∧
      ∀ container, container ≠ request.target → container ≠ item.container →
        written.members kind container = store.members kind container := by
  obtain ⟨-, -, rfl⟩ := Store.writePositions_eq_ok_iff.mp hwritten
  obtain ⟨hstored, hid⟩ := Shelf.get?_eq_some_iff.mp hfound
  constructor
  · refine ⟨found.reposition move.batch.positions move.batch.containers, ?_, ?_⟩
    · unfold Store.get?
      rw [Store.shelf_withShelf_self, Shelf.get?_bump, Shelf.get?_reposition]
      exact congrArg _ hfound
    · rw [container_of_preparation hplan fun _ => hsource, if_pos hid]
  · intro container htarget hleft
    obtain ⟨-, -, -, hcontainers, -⟩ := preparation_batch hplan
    unfold Store.members
    rw [Store.shelf_withShelf_self, Shelf.members_bump]
    apply Shelf.members_reposition_of_not_mem
    · rintro other hother hnamed rfl
      have hne : other.id ≠ item.id := by
        intro hitem
        rw [Shelf.eq_of_id_eq hother hstored (hitem.trans hid.symm)] at hleft
        exact hleft hsource
      obtain ⟨hposition, hcontainer⟩ := not_named_of_preparation hplan hother hne htarget
      exact hnamed.elim hposition hcontainer
    · intro entry hentry
      rw [hcontainers] at hentry
      rw [(mem_containerChanges hentry).1]
      exact htarget.symm

/-- What a move works out against a store. -/
def Store.plan (store : Store) (policy : MovePolicy) (kind : Kind) (request : MoveRequest)
    (item : Item) : Preparation :=
  preparation policy request item (store.view kind request.target)
    (store.expectedFor request.target (store.version kind request.target) kind item.container)

/-- What a planned batch does to an item of its kind. -/
theorem reposition_planned (hitem : item ∈ (store.shelf kind).items)
    (hplan : store.plan policy kind request item = .planned move) {other : Item}
    (hother : other ∈ (store.shelf kind).items) :
    (other.reposition move.batch.positions move.batch.containers).container =
        (if other.id = item.id then request.target else other.container) ∧
      (other.id ≠ item.id → other.container ≠ request.target →
        other.reposition move.batch.positions move.batch.containers = other) := by
  constructor
  · apply container_of_preparation hplan
    intro hid
    rw [Shelf.eq_of_id_eq hother hitem hid]
  · intro hid htarget
    obtain ⟨hposition, hcontainer⟩ := not_named_of_preparation hplan hother hid htarget
    exact Item.reposition_of_not_mem hposition hcontainer

/-- What is planned against a store can be written to it. -/
theorem Store.writePositions_plan (hstored : store.get? kind item.id = some item)
    (hplan : store.plan policy kind request item = .planned move) :
    store.writePositions kind move.batch =
      .ok (store.withShelf kind (((store.shelf kind).reposition move.batch.positions
        move.batch.containers).bump move.batch.expected.keys)) := by
  obtain ⟨-, -, hexpected, hcontainers, hpositions⟩ := preparation_batch hplan
  obtain ⟨hitem, -⟩ := Shelf.get?_eq_some_iff.mp hstored
  refine Store.writePositions_eq_ok_iff.mpr ⟨?_, ?_, rfl⟩
  · rw [Store.stale?_eq_none_iff, hexpected]
    unfold Store.expectedFor
    split
    · simp
    · simp
  · rw [Store.missing?_eq_none_iff, hcontainers]
    intro id hid
    rcases List.mem_append.mp hid with hposition | hcontainer
    · rcases hpositions id hposition with rfl | ⟨entry, hentry, rfl⟩
      · exact ⟨item, hstored⟩
      · obtain ⟨member, hmember, rfl⟩ := List.mem_map.mp hentry
        exact ⟨member, Shelf.get?_eq_some_iff.mpr ⟨(Shelf.mem_contents.mp hmember).1, rfl⟩⟩
    · obtain ⟨entry, hentry, rfl⟩ := List.mem_map.mp hcontainer
      rw [(mem_containerChanges hentry).1]
      exact ⟨item, hstored⟩

end Kanban
