/-
Positions foretold.  Whoever knows the view of the target and the request alone can work
out the position that a move will give its item, whichever index the request says the item
comes from, unless the target has to be renumbered.
-/
import Kanban.Proofs.Move.Frame

namespace Kanban

section

variable {P : Type} [Coordinate P] {siblings : List (Sibling P)} {request : MoveRequest}
  {source : String}

/-- The position of a plan is told by the view and the request.  That the entry is known,
and that an index of another container is left out, makes no difference to it. -/
theorem computeInsertPosition_of_plan {placement : Placement P} {known : Option (Sibling P)}
    (hplan : planMove siblings (request.within source) known = .ok placement)
    (hsource : source = request.target ∨ ∀ entry ∈ siblings, entry.id ≠ request.id) :
    computeInsertPosition siblings request = .ok placement.position := by
  suffices hforetold : ∃ foretold, planMove siblings request none = .ok foretold ∧
      foretold.position = placement.position by
    obtain ⟨foretold, hforetold, hposition⟩ := hforetold
    rw [computeInsertPosition, hforetold, ← hposition]
    rfl
  rcases hsource with hwithin | habsent
  · rw [MoveRequest.within, if_pos hwithin] at hplan
    obtain ⟨toIndex, hindex, ⟨entry, hcurrent, hfrom, rfl⟩ | ⟨hmoves, position, hposition, rfl⟩⟩ :=
      planMove_eq_ok_iff.mp hplan
    · exact ⟨_, planMove_eq_ok_iff.mpr ⟨toIndex, hindex, .inl ⟨entry, hcurrent, hfrom, rfl⟩⟩, rfl⟩
    · exact ⟨_, planMove_eq_ok_iff.mpr
        ⟨toIndex, hindex, .inr ⟨hmoves, position, hposition, rfl⟩⟩, rfl⟩
  · have hnone (asked : MoveRequest) (hid : asked.id = request.id) :
        current? siblings asked = none := by
      apply current?_eq_none_iff.mpr
      intro hmem
      obtain ⟨entry, hentry, hsame⟩ := List.mem_map.mp hmem
      exact habsent entry hentry (hsame.trans hid)
    obtain ⟨toIndex, hindex, ⟨entry, hcurrent, -⟩ | ⟨-, position, hposition, rfl⟩⟩ :=
      planMove_eq_ok_iff.mp hplan
    · rw [hnone _ (request.id_within source)] at hcurrent
      cases hcurrent
    · rw [MoveRequest.toIndex_within] at hindex
      rw [MoveRequest.id_within] at hposition
      exact ⟨_, planMove_eq_ok_iff.mpr
        ⟨toIndex, hindex, .inr ⟨.inl (hnone request rfl), position, hposition, rfl⟩⟩, rfl⟩

end

variable {policy : MovePolicy} {kind : Kind} {request : MoveRequest} {store : Store}
  {item : Item}

/-- An entry of a view under the id of a stored item is that item. -/
theorem eq_snapshot_of_mem_view {target : String} {entry : Sibling Binary64}
    (hstored : store.get? kind request.id = some item) (hentry : entry ∈ store.view kind target)
    (hid : entry.id = request.id) : item.container = target ∧ entry = item.snapshot := by
  obtain ⟨other, hother, rfl⟩ := List.mem_map.mp hentry
  obtain ⟨hmem, hhere⟩ := Shelf.mem_contents.mp hother
  obtain ⟨hitem, hsame⟩ := Shelf.get?_eq_some_iff.mp hstored
  obtain rfl := Shelf.eq_of_id_eq hmem hitem (hid.trans hsame.symm)
  exact ⟨hhere, rfl⟩

/-- Whatever is planned for a stored item, its position is told by the view and the request
as it was made. -/
theorem computeInsertPosition_of_stored {placement : Placement Binary64}
    (hstored : store.get? kind request.id = some item)
    (hplanned : planMove (store.view kind request.target) (request.within item.container)
      (some item.snapshot) = .ok placement) :
    computeInsertPosition (store.view kind request.target) request = .ok placement.position := by
  apply computeInsertPosition_of_plan hplanned
  by_cases htarget : item.container = request.target
  · exact .inl htarget
  · exact .inr fun entry hentry hid =>
      htarget (eq_snapshot_of_mem_view hstored hentry hid).1

/-- An item that stays is planned at the position it has. -/
theorem position_of_noop {placement : Placement Binary64}
    (hstored : store.get? kind request.id = some item)
    (hplanned : planMove (store.view kind request.target) (request.within item.container)
      (some item.snapshot) = .ok placement) (hnoop : placement.noop = true) :
    placement.position = item.position := by
  obtain ⟨toIndex, -, ⟨entry, hcurrent, -, rfl⟩ | ⟨-, position, -, rfl⟩⟩ :=
    planMove_eq_ok_iff.mp hplanned
  · obtain ⟨hentry, hid⟩ := mem_of_current? hcurrent
    rw [MoveRequest.id_within] at hid
    obtain ⟨-, rfl⟩ := eq_snapshot_of_mem_view hstored hentry hid
    rfl
  · cases hnoop

section

variable {target : String} {placement : Placement Binary64} {before after : Store} {moved : Item}

/-- Where the planned view is renumbered, the item gets its index there. -/
theorem MoveFrame.position_renumbered
    (hframe : MoveFrame policy kind target item placement before after)
    (hrenumbers : needsRenormalization placement.ordered policy.threshold = true)
    (hmoved : after.get? kind item.id = some moved) :
    let ids := placement.ordered.map Sibling.id
    item.id ∈ ids ∧ moved.position = .ofInt (ids.idxOf item.id + 1 : Nat) := by
  intro ids
  have hmem : item.id ∈ ids := (hframe.planned item.id).mpr (.inl rfl)
  have hplace : ids[ids.idxOf item.id]? = some item.id := List.getElem?_idxOf hmem
  rw [List.getElem?_map, Option.map_eq_some_iff] at hplace
  obtain ⟨entry, hentry, hid⟩ := hplace
  have hnumber := hframe.renumbered hrenumbers _ entry hentry
  rw [hid, hmoved] at hnumber
  exact ⟨hmem, Option.some.inj hnumber⟩

/-- Everywhere else it gets the position that is planned for it. -/
theorem MoveFrame.position_placed
    (hframe : MoveFrame policy kind target item placement before after)
    (hwide : needsRenormalization placement.ordered policy.threshold = false)
    (hstored : before.get? kind item.id = some item)
    (hmoved : after.get? kind item.id = some moved) : moved.position = placement.position := by
  have hplaced := hframe.placed hwide item.id item hstored
  rw [hmoved, if_pos rfl] at hplaced
  exact Option.some.inj hplaced

end

/-- A move that nothing interferes with gives its item the position that is worked out from
the view of the target and the request as it was made.  Only where the planned view has to
be renumbered, the item gets its index there, counted from one. -/
theorem move_foretold {after : Store} {moved : Item}
    (hmove : store.move policy kind request = (after, .ok moved)) :
    ∃ item placement, store.get? kind request.id = some item ∧
      planMove (store.view kind request.target) (request.within item.container)
        (some item.snapshot) = .ok placement ∧
      if placement.noop = false ∧
          needsRenormalization placement.ordered policy.threshold = true then
        request.id ∈ placement.ordered.map Sibling.id ∧
          moved.position =
            .ofInt ((placement.ordered.map Sibling.id).idxOf request.id + 1 : Nat)
      else
        computeInsertPosition (store.view kind request.target) request = .ok moved.position := by
  rcases store.move_cases policy kind request with
    ⟨cause, herror⟩ | ⟨item, hload, ⟨hplan, hstay⟩ | ⟨move, hplan, hwrite⟩⟩
  · rw [herror] at hmove
    cases hmove
  · rw [hstay] at hmove
    obtain ⟨rfl, hmoved⟩ := Prod.mk.inj hmove
    obtain rfl := Except.ok.inj hmoved
    have hstored := (load_eq_ok_iff.mp hload).1
    obtain ⟨-, -, placement, hplanned, hnoop⟩ | ⟨_, _, -, hcause⟩ := preparation_eq_ended hplan
    · refine ⟨item, placement, hstored, hplanned, ?_⟩
      rw [if_neg (by simp [hnoop]), computeInsertPosition_of_stored hstored hplanned,
        position_of_noop hstored hplanned hnoop]
    · cases hcause
  · rw [hwrite] at hmove
    obtain ⟨rfl, hmoved⟩ := Prod.mk.inj hmove
    obtain rfl := Except.ok.inj hmoved
    have hstored := (load_eq_ok_iff.mp hload).1
    obtain ⟨hitem, hid⟩ := Shelf.get?_eq_some_iff.mp hstored
    obtain ⟨placement, hplanned, hframe⟩ := moveFrame_of_planned hitem hid hplan
    rw [← hid] at hstored
    have hafter : (store.withShelf kind (((store.shelf kind).reposition move.batch.positions
        move.batch.containers).bump move.batch.expected.keys)).get? kind item.id =
          some (item.reposition move.batch.positions move.batch.containers) := by
      rw [Store.get?, Store.shelf_withShelf_self, Shelf.get?_bump, Shelf.get?_reposition]
      exact congrArg _ hstored
    refine ⟨item, placement, hid ▸ hstored, hplanned, ?_⟩
    split
    · rename_i hrenumbers
      rw [← hid]
      exact hframe.position_renumbered hrenumbers.2 hafter
    · rename_i hkept
      have hwide : needsRenormalization placement.ordered policy.threshold = false := by
        simpa [noop_of_planned hplan hplanned] using hkept
      rw [computeInsertPosition_of_stored (hid ▸ hstored) hplanned,
        hframe.position_placed hwide hstored hafter]

/-- Two lists of two cards. -/
def crossing : Store :=
  Store.empty.applyAll [.create .card "a" ⟨[], none, some "P"⟩,
    .create .card "a" ⟨[], none, some "Q"⟩, .create .card "b" ⟨[], none, some "R"⟩,
    .create .card "b" ⟨[], none, some "S"⟩]

/-- A card goes between two of the other list.  That it stood at the same index of its own is
told along and means nothing. -/
theorem move_foretold_crossing :
    let request : MoveRequest := ⟨"Q", some 1, some 1, "b"⟩
    let card : Item := ⟨"Q", "a", .ofInt 2, 2, []⟩
    let halfway : Binary64 := (Binary64.ofInt 3).half
    (crossing.move .default .card request).2 =
        .ok { card with container := "b", position := halfway } ∧
      computeInsertPosition (crossing.view .card "b") request = .ok halfway := by
  intro request card halfway
  have hmoved : (crossing.move .default .card request).2 =
      .ok { card with container := "b", position := halfway } := by
    decide +kernel
  have hwide : (planMove (crossing.view .card "b") (request.within "a")
      (some card.snapshot)).map (fun placement =>
        needsRenormalization placement.ordered MovePolicy.default.threshold) = .ok false := by
    decide +kernel
  have hmove : crossing.move .default .card request = ((crossing.move .default .card request).1,
      .ok { card with container := "b", position := halfway }) := by
    rw [← hmoved]
  obtain ⟨item, placement, hitem, hplanned, hforetold⟩ := move_foretold hmove
  obtain rfl : card = item := Option.some.inj (Eq.trans (by decide +kernel) hitem)
  change planMove (crossing.view .card "b") (request.within "a") (some card.snapshot) =
    _ at hplanned
  rw [hplanned] at hwide
  have hkept : needsRenormalization placement.ordered MovePolicy.default.threshold = false :=
    Except.ok.inj hwide
  rw [hkept, if_neg (by simp)] at hforetold
  dsimp only at hforetold
  exact ⟨hmoved, hforetold⟩

end Kanban
