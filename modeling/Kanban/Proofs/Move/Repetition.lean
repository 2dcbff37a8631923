/-
Moves made twice.  A move leaves its item where the same move would put it: between
the same neighbours or, if the target was renumbered, between numbers that have its
own halfway.  So the same move made again settles at once, whichever way it takes.
-/
import Kanban.Proofs.Move.Settled
import Kanban.Proofs.Store.Finite

namespace Kanban

open Binary64

theorem after_ofInt {count : Nat} (hcount : count ≤ Nat.pow 2 53) :
    Coordinate.after (ofInt (count : Int)) = .ok (ofInt (count + 1 : Nat)) := by
  change (ofInt (count : Int)).ceil.map _ = _
  rw [ceil_ofInt hcount]
  rfl

theorem before_ofInt {count : Nat} (hcount : count + 1 ≤ Nat.pow 2 53) :
    Coordinate.before (ofInt (count + 1 : Nat)) = .ok (ofInt (count : Int)) := by
  change (ofInt (count + 1 : Nat)).floor.map _ = _
  rw [floor_ofInt hcount, Except.map, Int.natCast_add, Int.natCast_one, Int.add_sub_cancel]

theorem between_ofInt {count : Nat} (hcount : count + 2 ≤ Nat.pow 2 53) :
    Coordinate.between (ofInt (count : Int)) (ofInt (count + 2 : Nat)) =
      ofInt (count + 1 : Nat) :=
  half_add_ofInt (Nat.le_trans (Nat.le_add_right count 2) hcount) hcount (by omega)
    (Nat.succ_pos count)

/-- The number of a slot is what its numbered neighbours make of it. -/
theorem insertPosition_numbered {others : List Item} {item : Item} {index : Int}
    (hcount : others.length < Nat.pow 2 53)
    (hnumbered : Numbered (others.insertIdx (clampIndex index others.length) item)) :
    insertPosition (others.map Item.snapshot) index = .ok item.position := by
  have hslot := clampIndex_le index others.length
  unfold insertPosition neighbors
  rw [List.length_map]
  generalize clampIndex index others.length = slot at hslot hnumbered
  have hitem : item.position = ofInt (slot + 1 : Nat) := by
    refine hnumbered slot item ?_
    rw [List.getElem?_insertIdx_self, if_pos hslot]
  have hbefore {place : Nat} {other : Item} (hplace : place < slot)
      (hother : others[place]? = some other) :
      other.snapshot.position = ofInt (place + 1 : Nat) :=
    hnumbered place other ((List.getElem?_insertIdx_of_lt hplace).trans hother)
  have hafter {other : Item} (hother : others[slot]? = some other) :
      other.snapshot.position = ofInt (slot + 2 : Nat) :=
    hnumbered (slot + 1) other
      ((List.getElem?_insertIdx_of_gt (Nat.lt_succ_self slot)).trans hother)
  rw [hitem]
  cases slot with
  | zero =>
      cases hnext : others[0]? with
      | none => simp [List.getElem?_map, hnext, positionBetween, Coordinate.first]
      | some next =>
          have hlength := (List.getElem?_eq_some_iff.mp hnext).1
          simp only [List.getElem?_map, hnext, Option.map_some, positionBetween, hafter hnext]
          exact before_ofInt (by omega)
  | succ slot =>
      have hprev : others[slot]? = some others[slot] := List.getElem?_eq_getElem hslot
      have hlow := hbefore (Nat.lt_succ_self slot) hprev
      cases hnext : others[slot + 1]? with
      | none =>
          simp only [List.getElem?_map, hprev, hnext, Option.map_some, Option.map_none,
            positionBetween, hlow]
          exact after_ofInt (by omega)
      | some next =>
          have hlength := (List.getElem?_eq_some_iff.mp hnext).1
          simp only [List.getElem?_map, hprev, hnext, Option.map_some, positionBetween, hlow,
            hafter hnext]
          exact congrArg _ (between_ofInt (by omega))

section

variable {policy : MovePolicy} {kind : Kind} {request : MoveRequest} {store : Store}
  {item other : Item} {move : PlannedMove} {toIndex : Int} {position : Binary64}
  {positions : Mapping Binary64} {containers : Mapping String}

theorem reposition_alone {target : String} :
    item.reposition [(item.id, position)] (containerChanges item target) =
      { item with position := position, container := target } := by
  unfold containerChanges
  split
  · rename_i hhere
    simp [Item.reposition, Mapping.get?, hhere]
  · simp [Item.reposition, Mapping.get?]

theorem reposition_beside {target : String} (hne : other.id ≠ item.id) :
    other.reposition [(item.id, position)] (containerChanges item target) = other := by
  apply Item.reposition_of_not_mem
  · simpa [Mapping.keys] using hne
  · intro hmem
    obtain ⟨entry, hentry, hid⟩ := List.mem_map.mp hmem
    exact hne (by rw [← hid, (mem_containerChanges hentry).1])

/-- A write that brings an item into its slot: the contents of the target are the
arrangement with the new positions. -/
def Store.Arrives (before after : Store) (kind : Kind) (target : String) (item : Item)
    (index : Int) (positions : Mapping Binary64) (containers : Mapping String) : Prop :=
  after.contents kind target =
    (before.arrangement kind target item index).map (Item.reposition positions containers)

namespace Store.Arrives

variable {after : Store} {target : String}

/-- Beside the item stand the others. -/
theorem others (harrives : store.Arrives after kind target item toIndex positions containers) :
    (after.shelf kind).others target item.id =
      ((store.shelf kind).others target item.id).map
        (Item.reposition positions containers) := by
  have hslot := store.slot_le kind target item.id toIndex
  have hothers : ((store.arrangement kind target item toIndex).filter fun other =>
      decide (other.id ≠ item.id)) = (store.shelf kind).others target item.id := by
    rw [Store.arrangement, insertIdx_eq_take_cons_drop hslot, List.filter_append,
      List.filter_cons_of_neg (by simp), ← List.filter_append, List.take_append_drop,
      List.filter_eq_self]
    intro other hother
    exact decide_eq_true (Shelf.mem_others.mp hother).2
  rw [Shelf.others, show (after.shelf kind).contents target = _ from harrives, List.filter_map]
  exact congrArg (List.map _) hothers

/-- The item stands in its slot. -/
theorem arranged
    (harrives : store.Arrives after kind target item toIndex positions containers) :
    after.arrangement kind target (item.reposition positions containers) toIndex =
      after.contents kind target := by
  unfold Store.arrangement Store.slot
  rw [Item.id_reposition, harrives.others, List.length_map, ← List.map_insertIdx]
  exact harrives.symm

/-- An item that alone got its position has the same place among the same others. -/
theorem place_alone (harrives : store.Arrives after kind target item toIndex
    [(item.id, position)] (containerChanges item target)) :
    after.place kind target item.id toIndex = store.place kind target item.id toIndex := by
  have hsame : ((store.shelf kind).others target item.id).map
      (Item.reposition [(item.id, position)] (containerChanges item target)) =
        (store.shelf kind).others target item.id :=
    (List.map_congr_left fun other hother =>
      reposition_beside (Shelf.mem_others.mp hother).2).trans (List.map_id _)
  rw [Store.place, harrives.others, hsame]
  rfl

/-- The view is then the one that was planned. -/
theorem view_alone (harrives : store.Arrives after kind target item toIndex
    [(item.id, position)] (containerChanges item target)) :
    after.view kind target = store.planned kind target item toIndex position := by
  rw [Store.view, show after.contents kind target = _ from harrives, List.map_map]
  apply List.map_congr_left
  intro other hother
  rw [Function.comp_apply]
  rcases mem_arrangement.mp hother with rfl | hrest
  · rw [if_pos rfl, reposition_alone]
    rfl
  · have hne := (Shelf.mem_others.mp hrest).2
    rw [if_neg hne, reposition_beside hne]

/-- A target that was renumbered is numbered. -/
theorem numbered (harrives : store.Arrives after kind request.target item toIndex
    (renormalize ((store.arrangement kind request.target item toIndex).map Item.snapshot))
    containers) : Numbered (after.contents kind request.target) := by
  intro place other hother
  rw [show after.contents kind request.target = _ from harrives, List.getElem?_map,
    Option.map_eq_some_iff] at hother
  obtain ⟨before, hbefore, rfl⟩ := hother
  exact store.position_renumbered hbefore

/-- In a numbered target the place of the item is its number. -/
theorem place_numbered (hlength : (store.contents kind target).length < Nat.pow 2 53)
    (harrives : store.Arrives after kind target item toIndex positions containers)
    (hnumbered : Numbered (after.contents kind target)) :
    after.place kind target item.id toIndex =
      .ok (item.reposition positions containers).position := by
  apply insertPosition_numbered
  · rw [harrives.others, List.length_map]
    exact Nat.lt_of_le_of_lt (List.length_filter_le _ _) hlength
  · rw [← harrives.arranged] at hnumbered
    exact hnumbered

end Store.Arrives

/-- A planned write leaves the item where the same move would put it. -/
theorem Store.settled_of_planned
    (hfinite : ∀ other ∈ (store.shelf kind).items, other.position.IsFinite)
    (hthreshold : (zero false).lt policy.threshold = true)
    (hlength : (store.contents kind request.target).length < Nat.pow 2 53)
    (hitem : item ∈ (store.shelf kind).items) (hid : item.id = request.id)
    (hindex : request.toIndex = some toIndex)
    (hplan : store.plan policy kind request item = .planned move) :
    (store.withShelf kind (((store.shelf kind).reposition move.batch.positions
      move.batch.containers).bump move.batch.expected.keys)).Settled policy.threshold kind
        request.target toIndex (item.reposition move.batch.positions move.batch.containers) := by
  obtain ⟨hmoves, position, hposition, hmove⟩ :=
    (Store.plan_eq_planned_iff hitem hid hindex).mp hplan
  obtain ⟨found, hfound, hordered, hreached⟩ :=
    Store.plan_of_moving hfinite hlength hthreshold hid hindex hmoves
  rw [hplan] at hfound
  obtain rfl := Preparation.planned.inj hfound
  have hcontainer := (reposition_planned hitem hplan hitem).1.trans (if_pos rfl)
  have hcontents := Shelf.contents_reposition hitem
    (store.slot_le kind request.target item.id toIndex)
    (fun other hother => (reposition_planned hitem hplan hother).1)
    (fun other hother => (hreached other hother).ne_nan) hordered
  generalize hafter : store.withShelf kind (((store.shelf kind).reposition
    move.batch.positions move.batch.containers).bump move.batch.expected.keys) = after
  have hshelf : after.shelf kind = ((store.shelf kind).reposition
      move.batch.positions move.batch.containers).bump move.batch.expected.keys := by
    rw [← hafter, Store.shelf_withShelf_self]
  have hstored : item.reposition move.batch.positions move.batch.containers ∈
      (after.shelf kind).items := by
    rw [hshelf]
    exact List.mem_map_of_mem hitem
  have harrives : store.Arrives after kind request.target item toIndex move.batch.positions
      move.batch.containers := by
    rw [Store.Arrives, Store.contents, hshelf]
    exact hcontents
  cases hneeds : needsRenormalization
      (store.planned kind request.target item toIndex position) policy.threshold with
  | true =>
      have hpositions : move.batch.positions = renormalize
          ((store.arrangement kind request.target item toIndex).map Item.snapshot) := by
        rw [hmove]
        exact if_pos hneeds
      have hnumbered : Numbered (after.contents kind request.target) := by
        rw [hpositions] at harrives
        exact harrives.numbered
      exact ⟨hstored, hcontainer, harrives.arranged, harrives.place_numbered hlength hnumbered,
        fun _ => hnumbered⟩
  | false =>
      have hpositions : move.batch.positions = [(item.id, position)] := by
        rw [hmove]
        exact if_neg (by rw [hneeds]; exact Bool.false_ne_true)
      have hcontainers : move.batch.containers = containerChanges item request.target := by
        rw [hmove]
      rw [hpositions, hcontainers] at hstored hcontainer harrives ⊢
      refine ⟨hstored, hcontainer, harrives.arranged, ?_, ?_⟩
      · rw [Item.id_reposition, harrives.place_alone, reposition_alone]
        exact hposition
      · rw [harrives.view_alone, hneeds]
        exact fun hfalse => absurd hfalse Bool.false_ne_true

end

/-- In a store of finite positions, with fewer than 2^53 items in the target and a
positive threshold, whatever a move returns it returns again when it is made a second
time.  Every item is then as the first move left it, and only versions have grown. -/
theorem move_repeated {policy : MovePolicy} {kind : Kind} {request : MoveRequest}
    {store after : Store} {moved : Item} (hfinite : store.Finite)
    (hlength : (store.contents kind request.target).length < Nat.pow 2 53)
    (hthreshold : (zero false).lt policy.threshold = true)
    (hmove : store.move policy kind request = (after, .ok moved)) :
    ∃ again, after.move policy kind request = (again, .ok moved) ∧ after.SameItems again := by
  obtain ⟨hretries, toIndex, hindex⟩ := Store.policy_of_moved hmove
  rcases store.move_cases policy kind request with
    ⟨cause, herror⟩ | ⟨item, hload, ⟨-, hstay⟩ | ⟨move, hplan, hwrite⟩⟩
  · rw [herror] at hmove
    cases (Prod.mk.inj hmove).2
  · rw [hstay] at hmove
    obtain ⟨rfl, hmoved⟩ := Prod.mk.inj hmove
    obtain rfl := Except.ok.inj hmoved
    exact ⟨store, hstay, .refl store⟩
  · rw [hwrite] at hmove
    obtain ⟨rfl, hmoved⟩ := Prod.mk.inj hmove
    obtain rfl := Except.ok.inj hmoved
    obtain ⟨hitem, hid⟩ := Shelf.get?_eq_some_iff.mp (load_eq_ok_iff.mp hload).1
    exact (Store.settled_of_planned (hfinite kind) hthreshold hlength hitem hid hindex
      hplan).move_again hretries hid hindex

/-- Two cards at one position and a third in another list. -/
def arrivingCard : Store :=
  Store.empty.applyAll [.create .card "a" ⟨[], some (.zero false), some "X"⟩,
    .create .card "a" ⟨[], some (.zero true), some "Y"⟩,
    .create .card "b" ⟨[], some (.ofInt 7), some "Z"⟩]

/-- A card arrives between two at one position, and the list is renumbered.  Made again,
the move stays within the list and finds the halfway between its neighbours. -/
theorem move_repeated_arrivingCard :
    let request : MoveRequest := ⟨"Z", none, some 1, "a"⟩
    let after := (arrivingCard.move .default .card request).1
    let again := (after.move .default .card request).1
    arrivingCard.Finite ∧ (arrivingCard.contents .card "a").length < Nat.pow 2 53 ∧
      (zero false).lt MovePolicy.default.threshold = true ∧
      (arrivingCard.move .default .card request).2 = .ok ⟨"Z", "a", .ofInt 2, 3, []⟩ ∧
      (after.move .default .card request).2 = .ok ⟨"Z", "a", .ofInt 2, 3, []⟩ ∧
      again.contents .card "a" = [⟨"X", "a", .ofInt 1, 1, []⟩, ⟨"Z", "a", .ofInt 2, 3, []⟩,
        ⟨"Y", "a", .ofInt 3, 2, []⟩] ∧
      after.version .card "a" = 3 ∧ again.version .card "a" = 4 := by
  intro request after again
  have hfinite : arrivingCard.Finite := by
    intro kind
    cases kind <;> decide +kernel
  have hlength : (arrivingCard.contents .card "a").length < Nat.pow 2 53 := by decide +kernel
  have hthreshold : (zero false).lt MovePolicy.default.threshold = true := by decide +kernel
  have hmoved : (arrivingCard.move .default .card request).2 =
      .ok ⟨"Z", "a", .ofInt 2, 3, []⟩ := by
    decide +kernel
  have hmove : arrivingCard.move .default .card request =
      (after, .ok ⟨"Z", "a", .ofInt 2, 3, []⟩) := by
    rw [← hmoved]
  obtain ⟨found, hagain, hsame⟩ := move_repeated hfinite hlength hthreshold hmove
  have hfound : again = found := congrArg Prod.fst hagain
  have hcontents : again.contents .card "a" = after.contents .card "a" := by
    rw [hfound]
    exact congrArg (fun items => orderItems (items.filter fun item =>
      decide (item.container = "a"))) (hsame.items .card)
  refine ⟨hfinite, hlength, hthreshold, hmoved, congrArg Prod.snd hagain, ?_, ?_, ?_⟩
  · rw [hcontents]
    decide +kernel
  · decide +kernel
  · decide +kernel

end Kanban
