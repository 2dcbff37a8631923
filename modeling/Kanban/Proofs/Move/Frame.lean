/-
The frame of a move.  An undisturbed move brings one item to its target and gives
new positions there; everything else, down to the versions of other containers,
stays as it was.
-/
import Mathlib.Data.List.InsertIdx
import Kanban.Proofs.Move.Lineup

namespace Kanban

variable {policy : MovePolicy} {kind : Kind} {request : MoveRequest} {store : Store}
  {item : Item} {move : PlannedMove}

/-- What a written move leaves alone and what it changes.  The item goes to the
target.  Unless the planned view is renumbered, the item alone gets another
position; if it is, its entries stand at their indices, counted from one. -/
structure MoveFrame (policy : MovePolicy) (kind : Kind) (target : String) (item : Item)
    (placement : Placement Binary64) (before after : Store) : Prop where
  counter : after.counter = before.counter
  otherKinds : ∀ other, other ≠ kind → after.shelf other = before.shelf other
  ids : (after.shelf kind).items.map Item.id = (before.shelf kind).items.map Item.id
  kept : ∀ id stored, before.get? kind id = some stored →
    ∃ now, after.get? kind id = some now ∧ now.seq = stored.seq ∧
      now.payload = stored.payload ∧
      now.container = if id = item.id then target else stored.container
  elsewhere : ∀ id stored, before.get? kind id = some stored → id ≠ item.id →
    stored.container ≠ target → after.get? kind id = some stored
  planned : ∀ id, id ∈ placement.ordered.map Sibling.id ↔
    id = item.id ∨ ∃ stored, before.get? kind id = some stored ∧ stored.container = target
  placed : needsRenormalization placement.ordered policy.threshold = false →
    ∀ id stored, before.get? kind id = some stored →
      (after.get? kind id).map Item.position =
        some (if id = item.id then placement.position else stored.position)
  renumbered : needsRenormalization placement.ordered policy.threshold = true →
    ∀ place entry, placement.ordered[place]? = some entry →
      (after.get? kind entry.id).map Item.position = some (.ofInt (place + 1 : Nat))
  versions : ∀ container, after.version kind container =
    if container = target ∨ container = item.container then before.version kind container + 1
    else before.version kind container

/-- The entries of a planned view are the item and what stands in the target. -/
theorem mem_ids_planned {toIndex : Int} {position : Binary64} {id : String} :
    id ∈ (placeAt (detach (store.view kind request.target) item.id)
        (store.slot kind request.target item.id toIndex) (some item.snapshot) position
        request.target).map Sibling.id ↔
      id = item.id ∨
        ∃ stored, store.get? kind id = some stored ∧ stored.container = request.target := by
  rw [ids_planned, List.mem_map]
  constructor
  · rintro ⟨other, hother, rfl⟩
    rcases mem_arrangement.mp hother with rfl | hrest
    · exact Or.inl rfl
    · obtain ⟨⟨hstored, hhere⟩, -⟩ := Shelf.mem_others.mp hrest
      exact Or.inr ⟨other, Shelf.get?_eq_some_iff.mpr ⟨hstored, rfl⟩, hhere⟩
  · rintro (rfl | ⟨stored, hstored, hhere⟩)
    · exact ⟨item, mem_arrangement.mpr (Or.inl rfl), rfl⟩
    · obtain ⟨hmem, rfl⟩ := Shelf.get?_eq_some_iff.mp hstored
      by_cases hid : stored.id = item.id
      · exact ⟨item, mem_arrangement.mpr (Or.inl rfl), hid.symm⟩
      · exact ⟨stored,
          mem_arrangement.mpr (Or.inr (Shelf.mem_others.mpr ⟨⟨hmem, hhere⟩, hid⟩)), rfl⟩

/-- The write of a planned move stays within its frame. -/
theorem moveFrame_of_planned (hitem : item ∈ (store.shelf kind).items)
    (hid : item.id = request.id)
    (hplan : store.plan policy kind request item = .planned move) :
    ∃ placement,
      planMove (store.view kind request.target) (request.within item.container)
        (some item.snapshot) = .ok placement ∧
      MoveFrame policy kind request.target item placement store
        (store.withShelf kind (((store.shelf kind).reposition move.batch.positions
          move.batch.containers).bump move.batch.expected.keys)) := by
  obtain ⟨placement, toIndex, hmove, -, -, hordered, hplanned⟩ := plan_eq_planned hid hplan
  have hpositions : move.batch.positions = placementPositions placement item policy.threshold := by
    rw [hplanned]
  obtain ⟨-, -, hexpected, -, -⟩ := preparation_batch hplan
  have hget (id : String) : (store.withShelf kind (((store.shelf kind).reposition
      move.batch.positions move.batch.containers).bump move.batch.expected.keys)).get? kind id =
        (store.get? kind id).map
          (Item.reposition move.batch.positions move.batch.containers) := by
    rw [Store.get?, Store.shelf_withShelf_self, Shelf.get?_bump, Shelf.get?_reposition]
    rfl
  refine ⟨placement, hmove, ?_⟩
  constructor
  case counter => exact Store.counter_withShelf store kind _
  case otherKinds =>
    intro other hne
    exact Store.shelf_withShelf_of_ne store hne _
  case ids =>
    rw [Store.shelf_withShelf_self]
    exact ids_map_of_id_eq (Item.id_reposition _ _) _
  case kept =>
    intro id stored hstored
    obtain ⟨hmem, rfl⟩ := Shelf.get?_eq_some_iff.mp hstored
    refine ⟨_, (hget stored.id).trans (congrArg _ hstored), rfl, rfl, ?_⟩
    exact (reposition_planned hitem hplan hmem).1
  case elsewhere =>
    intro id stored hstored hne htarget
    obtain ⟨hmem, rfl⟩ := Shelf.get?_eq_some_iff.mp hstored
    rw [hget, hstored, Option.map_some, (reposition_planned hitem hplan hmem).2 hne htarget]
  case planned =>
    intro id
    rw [hordered]
    exact mem_ids_planned
  case placed =>
    intro hwide id stored hstored
    obtain ⟨-, rfl⟩ := Shelf.get?_eq_some_iff.mp hstored
    rw [hget, hstored, hpositions, placementPositions, if_neg (by rw [hwide]; decide)]
    by_cases hsame : stored.id = item.id
    · simp [Item.reposition, Mapping.get?, hsame]
    · simp [Item.reposition, Mapping.get?, hsame, Ne.symm hsame]
  case renumbered =>
    intro hneeds place entry hentry
    have hplace : (placement.ordered.map Sibling.id)[place]? = some entry.id := by
      rw [List.getElem?_map, hentry]
      rfl
    rw [hordered, ids_planned, List.getElem?_map, Option.map_eq_some_iff] at hplace
    obtain ⟨other, hother, hid⟩ := hplace
    have hmem : other ∈ (store.shelf kind).items := by
      rcases mem_arrangement.mp (List.mem_of_getElem? hother) with rfl | hrest
      · exact hitem
      · exact (Shelf.mem_others.mp hrest).1.1
    rw [← hid, hget, Store.get?, Shelf.get?_eq_some_iff.mpr ⟨hmem, rfl⟩, hpositions,
      placementPositions, if_pos hneeds, hordered, storedView_planned]
    exact congrArg some (store.position_renumbered hother)
  case versions =>
    intro container
    rw [Store.version, Store.shelf_withShelf_self, Shelf.versions_bump, hexpected]
    simp only [keys_expectedFor]
    rfl

/-- Whatever a move that nothing interferes with returns is the stored item, now in
the target.  A move within one container to the index it starts from changes
nothing at all; any other stays within the frame of its plan. -/
theorem move_frame {after : Store} {moved : Item}
    (hmove : store.move policy kind request = (after, .ok moved)) :
    ∃ item, store.get? kind request.id = some item ∧
      after.get? kind request.id = some moved ∧ moved.container = request.target ∧
      if item.container = request.target ∧ request.fromIndex = request.toIndex then
        after = store
      else
        ∃ placement,
          planMove (store.view kind request.target) (request.within item.container)
            (some item.snapshot) = .ok placement ∧
          MoveFrame policy kind request.target item placement store after := by
  rcases store.move_cases policy kind request with
    ⟨cause, herror⟩ | ⟨item, hload, ⟨hplan, hstay⟩ | ⟨move, hplan, hwrite⟩⟩
  · rw [herror] at hmove
    cases hmove
  · rw [hstay] at hmove
    obtain ⟨rfl, hmoved⟩ := Prod.mk.inj hmove
    obtain rfl := Except.ok.inj hmoved
    have hstored := (load_eq_ok_iff.mp hload).1
    obtain ⟨-, htarget, placement, hplanned, hnoop⟩ | ⟨reason, cause, -, hcause⟩ :=
      preparation_eq_ended hplan
    · refine ⟨item, hstored, hstored, htarget, ?_⟩
      obtain ⟨toIndex, hindex, ⟨entry, -, hfrom, -⟩ | ⟨-, position, -, rfl⟩⟩ :=
        planMove_eq_ok_iff.mp hplanned
      · rw [MoveRequest.within, if_pos htarget] at hfrom hindex
        rw [if_pos ⟨htarget, hfrom.trans hindex.symm⟩]
      · cases hnoop
    · cases hcause
  · rw [hwrite] at hmove
    obtain ⟨rfl, hmoved⟩ := Prod.mk.inj hmove
    obtain rfl := Except.ok.inj hmoved
    have hstored := (load_eq_ok_iff.mp hload).1
    obtain ⟨hitem, hid⟩ := Shelf.get?_eq_some_iff.mp hstored
    obtain ⟨placement, hplanned, hframe⟩ := moveFrame_of_planned hitem hid hplan
    refine ⟨item, hstored, ?_, ?_, ?_⟩
    · rw [Store.get?, Store.shelf_withShelf_self, Shelf.get?_bump, Shelf.get?_reposition]
      exact congrArg _ hstored
    · rw [(reposition_planned hitem hplan hitem).1, if_pos rfl]
    · rw [if_neg]
      · exact ⟨placement, hplanned, hframe⟩
      · rintro ⟨htarget, hsame⟩
        obtain ⟨toIndex, hindex, -⟩ := planMove_eq_ok_iff.mp hplanned
        rw [MoveRequest.toIndex_within] at hindex
        have hstays := Store.plan_of_staying policy hitem hid hindex htarget (hsame.trans hindex)
        rw [hstays] at hplan
        cases hplan

section

variable {target id : String} {placement : Placement Binary64} {before after : Store}
  {other : Kind} {old now : Item}

/-- Within its frame a move brings in nothing new and puts only its item elsewhere. -/
theorem MoveFrame.exists_before
    (hframe : MoveFrame policy kind target item placement before after)
    (hnow : after.get? other id = some now) :
    ∃ old, before.get? other id = some old ∧
      now.container = if other = kind ∧ id = item.id then target else old.container := by
  by_cases hkind : other = kind
  · subst hkind
    have hmem : id ∈ (before.shelf other).items.map Item.id := by
      obtain ⟨hstored, rfl⟩ := Shelf.get?_eq_some_iff.mp hnow
      rw [← hframe.ids]
      exact List.mem_map_of_mem hstored
    obtain ⟨old, hstored, hid⟩ := List.mem_map.mp hmem
    have hold : before.get? other id = some old := Shelf.get?_eq_some_iff.mpr ⟨hstored, hid⟩
    obtain ⟨kept, hkept, -, -, hcontainer⟩ := hframe.kept id old hold
    obtain rfl : now = kept := Option.some.inj (hnow.symm.trans hkept)
    exact ⟨old, hold, by simpa using hcontainer⟩
  · refine ⟨now, ?_, by rw [if_neg fun hboth => hkind hboth.1]⟩
    rw [Store.get?, ← hframe.otherKinds other hkind]
    exact hnow

theorem MoveFrame.exists_after
    (hframe : MoveFrame policy kind target item placement before after)
    (hold : before.get? other id = some old) : ∃ now, after.get? other id = some now := by
  by_cases hkind : other = kind
  · subst hkind
    obtain ⟨now, hnow, -⟩ := hframe.kept id old hold
    exact ⟨now, hnow⟩
  · refine ⟨old, ?_⟩
    rw [Store.get?, hframe.otherKinds other hkind]
    exact hold

end

/-- A card that goes between two others at their own position: the list is
renumbered, and the move stays within its frame. -/
theorem move_frame_tiedCards :
    let request : MoveRequest := ⟨"Z", none, some 1, "a"⟩
    let card : Item := ⟨"Z", "a", .zero false, 3, []⟩
    (tiedCards.move .default .card request).2 = .ok { card with position := .ofInt 2 } ∧
      ∃ placement, planMove (tiedCards.view .card "a") request (some card.snapshot) =
          .ok placement ∧
        needsRenormalization placement.ordered MovePolicy.default.threshold = true ∧
        MoveFrame .default .card "a" card placement tiedCards
          (tiedCards.move .default .card request).1 := by
  intro request card
  have hmoved : (tiedCards.move .default .card request).2 =
      .ok { card with position := .ofInt 2 } := by
    decide +kernel
  have hrenumbers : (planMove (tiedCards.view .card "a") request (some card.snapshot)).map
      (fun placement => needsRenormalization placement.ordered MovePolicy.default.threshold) =
        .ok true := by
    decide +kernel
  have hmove : tiedCards.move .default .card request =
      ((tiedCards.move .default .card request).1, .ok { card with position := .ofInt 2 }) := by
    rw [← hmoved]
  obtain ⟨item, hitem, -, -, hframe⟩ := move_frame hmove
  obtain rfl : card = item := Option.some.inj (Eq.trans (by decide +kernel) hitem)
  rw [if_neg (by decide)] at hframe
  obtain ⟨placement, hplanned, hframe⟩ := hframe
  refine ⟨hmoved, placement, hplanned, ?_, hframe⟩
  change planMove (tiedCards.view .card "a") request (some card.snapshot) = _ at hplanned
  rw [hplanned] at hrenumbers
  exact Except.ok.inj hrenumbers

end Kanban
