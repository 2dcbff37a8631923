/-
Gaps over whole runs.  A creation leaves a whole step, a planned move is checked
against the threshold and renumbered to whole steps if it falls short, and what a
deletion or a departure leaves behind moves no closer.  So siblings never come
closer than the lesser of the threshold and one.
-/
import Kanban.Proofs.Move.Frame
import Kanban.Proofs.Ordering.Spacing

namespace Kanban

open Binary64

/-- A creation takes an id that is not in use. -/
def Operation.TakesFreeId (store : Store) : Operation → Prop
  | .create kind _ _ id => store.get? kind (Store.idFor kind (store.counter + 1) id) = none
  | .delete .. => True
  | .move .. => True

instance (store : Store) : (op : Operation) → Decidable (op.TakesFreeId store)
  | .create .. => inferInstanceAs (Decidable (_ = _))
  | .delete .. => inferInstanceAs (Decidable True)
  | .move .. => inferInstanceAs (Decidable True)

/-- All positions lie below 2^53 in magnitude. -/
def Store.Moderate (store : Store) : Prop :=
  ∀ kind, ∀ item ∈ (store.shelf kind).items, item.position.IsModerate

instance (store : Store) : Decidable store.Moderate :=
  decidable_of_iff
    ((∀ item ∈ store.lists.items, item.position.IsModerate) ∧
      ∀ item ∈ store.cards.items, item.position.IsModerate)
    ⟨fun hboth kind => match kind with
      | .list => hboth.1
      | .card => hboth.2, fun hall => ⟨hall .list, hall .card⟩⟩

/-- Siblings stand at least a distance apart, in every container. -/
def Store.Spaced (least : Binary64) (store : Store) : Prop :=
  ∀ kind container, Kanban.Spaced least (store.view kind container)

variable {policy : MovePolicy} {kind : Kind} {request : MoveRequest} {store : Store}
  {item : Item} {move : PlannedMove} {least : Binary64} {container : String} {toIndex : Int}

namespace Store

theorem Spaced.withShelf (hspaced : store.Spaced least) {shelf : Shelf}
    (hshelf : ∀ key, Kanban.Spaced least ((shelf.contents key).map Item.snapshot)) :
    (store.withShelf kind shelf).Spaced least := by
  intro other key
  unfold view contents
  by_cases hkind : other = kind
  · subst hkind
    rw [shelf_withShelf_self]
    exact hshelf key
  · rw [shelf_withShelf_of_ne _ hkind]
    exact hspaced other key

theorem Spaced.takeNumber (hspaced : store.Spaced least) : store.takeNumber.Spaced least := by
  intro kind key
  unfold view contents
  rw [shelf_takeNumber]
  exact hspaced kind key

/-- Entries that stay behind are as far apart as before. -/
theorem Spaced.others (hspaced : store.Spaced least) (kind : Kind) (key id : String) :
    Kanban.Spaced least (((store.shelf kind).others key id).map Item.snapshot) :=
  (hspaced kind key).sublist (List.filter_sublist.map Item.snapshot)

/-- A creation at the end keeps a whole step to what was there. -/
theorem Spaced.create (hspaced : store.Spaced least) (hregular : store.Regular)
    (hone : least.le (ofInt 1) = true) {payload : Entries} {id : Option String}
    (hnew : store.get? kind (idFor kind (store.counter + 1) id) = none)
    (hmoderate : (store.create kind container ⟨payload, none, id⟩).1.Moderate) :
    (store.create kind container ⟨payload, none, id⟩).1.Spaced least := by
  obtain ⟨item, hcreate, hid, hcontainer, -, -, hcontents⟩ :=
    hregular.exists_created container (show Draft.position ⟨payload, none, id⟩ = none from rfl)
      hnew
  have hend : store.endOf kind container = .ok item.position := by
    obtain ⟨position, hposition, -⟩ := hregular.exists_end kind container
    have hgiven : store.positionFor kind container (Draft.mk payload none id).position =
      .ok position := hposition
    rw [create_of_ok hgiven] at hcreate
    rw [hposition, ← Except.ok.inj (Prod.mk.inj hcreate).2]
    rfl
  rw [hcreate] at hmoderate ⊢
  have hposition : item.position.IsModerate := by
    refine hmoderate kind item ?_
    rw [shelf_withShelf_self]
    exact Shelf.mem_put.mpr (Or.inl rfl)
  refine hspaced.takeNumber.withShelf fun key => ?_
  change Kanban.Spaced least ((((store.shelf kind).put item).contents key).map Item.snapshot)
  by_cases hkey : key = container
  · subst hkey
    rw [hcontents, List.map_append]
    refine List.pairwise_append.mpr ⟨hspaced kind key, List.pairwise_singleton _ _, ?_⟩
    intro entry hentry last hlast
    obtain rfl := List.mem_singleton.mp hlast
    rw [hregular.endOf_eq] at hend
    refine Binary64.le_trans hone (one_le_past_end ?_ (hregular.pairwise_view kind key) hend
      hposition entry hentry)
    intro other hother
    obtain ⟨stored, hstored, rfl⟩ := List.mem_map.mp hother
    exact hregular.finite kind stored (Shelf.mem_contents.mp hstored).1
  · rw [Shelf.contents_eq, Shelf.members_put_of_ne]
    · exact hspaced kind key
    · rw [hcontainer]
      exact Ne.symm hkey
    · intro previous hprevious
      rw [← hid, Store.get?, hprevious] at hnew
      cases hnew

/-- What a deletion leaves behind is as far apart as before. -/
theorem Spaced.delete (hspaced : store.Spaced least) (hregular : store.Regular) (id : String) :
    (store.delete kind id).1.Spaced least := by
  unfold Store.delete
  cases hstored : store.get? kind id with
  | none => exact hspaced
  | some item =>
      refine hspaced.withShelf fun key => ?_
      change Kanban.Spaced least ((((store.shelf kind).erase id).contents key).map Item.snapshot)
      rw [Shelf.contents_eq_filter Shelf.members_erase fun other hother => hregular.ne_nan hother]
      exact hspaced.others kind key id

end Store

/-- Where one position is written, the target has the positions of the planned view. -/
theorem positions_planned (store : Store) (kind : Kind) (request : MoveRequest) (item : Item)
    (toIndex : Int) (position : Binary64) (containers : Mapping String) :
    (placeAt (detach (store.view kind request.target) item.id)
        (store.slot kind request.target item.id toIndex) (some item.snapshot) position
        request.target).map Sibling.position =
      (store.arrangement kind request.target item toIndex).map fun other =>
        (other.reposition [(item.id, position)] containers).position := by
  rw [planned_eq_arrangement, List.map_map]
  apply List.map_congr_left
  intro other _
  by_cases hid : other.id = item.id
  · simp [Item.reposition, Mapping.get?, hid]
  · simp [Item.reposition, Mapping.get?, hid, Ne.symm hid, Item.snapshot]

/-- A target that is renumbered has whole steps between its items. -/
theorem spaced_of_renormalize {containers : Mapping String}
    (hmoderate : ∀ other ∈ store.arrangement kind request.target item toIndex,
      (other.reposition (renormalize ((store.arrangement kind request.target item toIndex).map
        Item.snapshot)) containers).position.IsModerate) :
    Spaced (ofInt 1) (((store.arrangement kind request.target item toIndex).map
      (Item.reposition (renormalize ((store.arrangement kind request.target item toIndex).map
        Item.snapshot)) containers)).map Item.snapshot) := by
  rw [List.map_map]
  apply spaced_of_indices
  · intro entry hentry
    obtain ⟨other, hother, rfl⟩ := List.mem_map.mp hentry
    exact hmoderate other hother
  · intro place entry hentry
    rw [List.getElem?_map, Option.map_eq_some_iff] at hentry
    obtain ⟨other, hother, rfl⟩ := hentry
    have hplace : (other.reposition (renormalize ((store.arrangement kind request.target item
        toIndex).map Item.snapshot)) containers).position = ofInt (place + 1 : Nat) :=
      store.position_renumbered hother
    exact hplace

/-- A target that needs no renumbering is spaced by the threshold. -/
theorem spaced_of_placed {threshold position : Binary64} {containers : Mapping String}
    (hthreshold : (zero false).lt threshold = true)
    (hmoderate : ∀ other ∈ store.arrangement kind request.target item toIndex,
      (other.reposition [(item.id, position)] containers).position.IsModerate)
    (hwide : needsRenormalization (placeAt (detach (store.view kind request.target) item.id)
      (store.slot kind request.target item.id toIndex) (some item.snapshot) position
      request.target) threshold = false) :
    Spaced threshold (((store.arrangement kind request.target item toIndex).map
      (Item.reposition [(item.id, position)] containers)).map Item.snapshot) := by
  have hpositions := positions_planned store kind request item toIndex position containers
  have hplanned := spaced_of_wide ?_ hthreshold hwide
  · rw [spaced_iff_positions, hpositions] at hplanned
    rw [spaced_iff_positions, List.map_map, List.map_map]
    exact hplanned
  · intro entry hentry
    have hposition := List.mem_map_of_mem (f := Sibling.position) hentry
    rw [hpositions] at hposition
    obtain ⟨other, hother, heq⟩ := List.mem_map.mp hposition
    rw [← heq]
    exact (hmoderate other hother).isFinite

/-- A planned write brings the target into an arrangement that is spaced. -/
theorem spaced_arrangement (hthreshold : (zero false).lt policy.threshold = true)
    (hid : item.id = request.id) (hplan : store.plan policy kind request item = .planned move)
    (hitem : item ∈ (store.shelf kind).items)
    (hmoderate : ∀ other ∈ (store.shelf kind).items,
      (other.reposition move.batch.positions move.batch.containers).position.IsModerate) :
    ∃ toIndex, Spaced (lesser policy.threshold (ofInt 1))
      (((store.arrangement kind request.target item toIndex).map
        (Item.reposition move.batch.positions move.batch.containers)).map Item.snapshot) := by
  obtain ⟨placement, toIndex, -, -, -, hordered, hplanned⟩ := plan_eq_planned hid hplan
  have hpositions : move.batch.positions = placementPositions placement item policy.threshold := by
    rw [hplanned]
  have hreached : ∀ other ∈ store.arrangement kind request.target item toIndex,
      (other.reposition move.batch.positions move.batch.containers).position.IsModerate := by
    intro other hother
    rcases mem_arrangement.mp hother with rfl | hrest
    · exact hmoderate other hitem
    · exact hmoderate other (Shelf.mem_others.mp hrest).1.1
  have hnumber := (ne_nan_of_lt hthreshold).2
  refine ⟨toIndex, ?_⟩
  rw [hpositions] at hreached ⊢
  unfold placementPositions at hreached ⊢
  cases hneeds : needsRenormalization placement.ordered policy.threshold with
  | true =>
      rw [hneeds, if_pos rfl, hordered, storedView_planned] at hreached
      rw [if_pos rfl, hordered, storedView_planned]
      exact (spaced_of_renormalize hreached).mono (lesser_le_right hnumber (ofInt_ne_nan 1))
  | false =>
      rw [hneeds, if_neg Bool.false_ne_true] at hreached
      rw [if_neg Bool.false_ne_true]
      rw [hordered] at hneeds
      exact (spaced_of_placed hthreshold hreached hneeds).mono (lesser_le_left hnumber)

/-- A move leaves siblings as far apart as the threshold asks for. -/
theorem Store.Spaced.moved (hthreshold : (zero false).lt policy.threshold = true)
    (hspaced : store.Spaced (lesser policy.threshold (ofInt 1))) (hregular : store.Regular)
    (hmoderate : (store.move policy kind request).1.Moderate) :
    (store.move policy kind request).1.Spaced (lesser policy.threshold (ofInt 1)) ∧
      (store.move policy kind request).1.Regular := by
  rcases store.move_cases policy kind request with
    ⟨cause, herror⟩ | ⟨item, hload, ⟨-, hstay⟩ | ⟨move, hplan, hwrite⟩⟩
  · rw [herror]
    exact ⟨hspaced, hregular⟩
  · rw [hstay]
    exact ⟨hspaced, hregular⟩
  · rw [hwrite] at hmoderate ⊢
    obtain ⟨hitem, hid⟩ := Shelf.get?_eq_some_iff.mp (load_eq_ok_iff.mp hload).1
    have hwritten : ∀ other ∈ (store.shelf kind).items,
        (other.reposition move.batch.positions move.batch.containers).position.IsModerate := by
      intro other hother
      refine hmoderate kind _ ?_
      rw [Store.shelf_withShelf_self]
      exact List.mem_map_of_mem hother
    obtain ⟨toIndex, harranged⟩ := spaced_arrangement hthreshold hid hplan hitem hwritten
    have hfinite : ∀ other ∈ store.arrangement kind request.target item toIndex,
        (other.reposition move.batch.positions move.batch.containers).position.IsFinite := by
      intro other hother
      rcases mem_arrangement.mp hother with rfl | hrest
      · exact (hwritten other hitem).isFinite
      · exact (hwritten other (Shelf.mem_others.mp hrest).1.1).isFinite
    refine ⟨hspaced.withShelf fun key => ?_, hregular.written hitem hplan hfinite⟩
    change Kanban.Spaced _ ((((store.shelf kind).reposition move.batch.positions
      move.batch.containers).contents key).map Item.snapshot)
    by_cases hkey : request.target = key
    · subst hkey
      have hordered := harranged.pairwise_lt ?_ (lt_lesser hthreshold zero_lt_one)
      · rw [Shelf.contents_reposition hitem (store.slot_le kind request.target item.id toIndex)
          (fun other hother => (reposition_planned hitem hplan hother).1)
          (fun other hother => (hfinite other hother).ne_nan) ?_]
        · exact harranged
        · rw [List.map_map] at hordered
          exact List.pairwise_map.mp hordered
      · intro entry hentry
        rw [List.map_map] at hentry
        obtain ⟨other, hother, rfl⟩ := List.mem_map.mp hentry
        exact hfinite other hother
    · rw [contents_left hregular hitem hplan hkey]
      exact hspaced.others kind key item.id

/-- One operation after which all positions are moderate. -/
theorem Store.Spaced.perform (hthreshold : (zero false).lt policy.threshold = true)
    (hspaced : store.Spaced (lesser policy.threshold (ofInt 1))) (hregular : store.Regular)
    {op : Operation} (hop : op.TakesFreeId store)
    (hmoderate : (store.perform policy op).Moderate) :
    (store.perform policy op).Spaced (lesser policy.threshold (ofInt 1)) ∧
      (store.perform policy op).Regular := by
  cases op with
  | create kind container payload id =>
      have hone := lesser_le_right (ne_nan_of_lt hthreshold).2 (ofInt_ne_nan 1)
      exact ⟨hspaced.create hregular hone hop hmoderate, (lineup_create hregular hop).2.1⟩
  | delete kind id =>
      refine ⟨hspaced.delete hregular id, ?_⟩
      cases hstored : store.get? kind id with
      | none =>
          simp only [Store.perform, Store.delete, hstored]
          exact hregular
      | some item => exact (lineup_delete hregular hstored).2.1
  | move kind request => exact hspaced.moved hthreshold hregular hmoderate

/-- In every run from an empty store of creations at the end under unused ids,
deletions and moves that nothing interferes with, as long as positions stay below
2^53 in magnitude, adjacent siblings are never closer than the lesser of the
threshold and one.  So positions increase strictly along every container. -/
theorem gaps_run {policy : MovePolicy} (hthreshold : (zero false).lt policy.threshold = true)
    {ops : List Operation}
    (hops : Along (Store.perform policy)
      (fun s op => op.TakesFreeId s ∧ (s.perform policy op).Moderate) .empty ops)
    (kind : Kind) (container : String) :
    (∀ gap ∈ gaps ((ops.foldl (Store.perform policy) .empty).view kind container),
        (lesser policy.threshold (ofInt 1)).le gap = true) ∧
      ((ops.foldl (Store.perform policy) .empty).view kind container).Pairwise
        fun a b => a.position.lt b.position = true := by
  have hstart : Store.empty.Spaced (lesser policy.threshold (ofInt 1)) ∧ Store.empty.Regular := by
    refine ⟨fun kind _ => ?_, ⟨fun kind => ?_, fun kind => ?_⟩⟩
    · cases kind <;> exact List.Pairwise.nil
    · cases kind <;> exact fun _ hitem => absurd hitem (List.not_mem_nil)
    · cases kind <;> exact fun _ hitem => absurd hitem (List.not_mem_nil)
  have hstep (s : Store) (op : Operation)
      (hs : s.Spaced (lesser policy.threshold (ofInt 1)) ∧ s.Regular)
      (hop : op.TakesFreeId s ∧ (s.perform policy op).Moderate) :=
    hs.1.perform hthreshold hs.2 hop.1 hop.2
  obtain ⟨hspaced, hregular⟩ := hops.preserves hstep hstart
  refine ⟨(hspaced kind container).le_gaps, (hspaced kind container).pairwise_lt ?_
    (lt_lesser hthreshold zero_lt_one)⟩
  intro entry hentry
  obtain ⟨item, hitem, rfl⟩ := List.mem_map.mp hentry
  exact hregular.finite kind item (Shelf.mem_contents.mp hitem).1

/-- A card goes between two others that stand one apart, under a threshold of one,
so its list is renumbered; then one leaves for another list and one is deleted. -/
theorem gaps_run_renumbering :
    let policy : MovePolicy := ⟨.ofInt 1, 3⟩
    let ops : List Operation :=
      [.create .card "a" [] (some "X"), .create .card "a" [] (some "Y"),
        .create .card "a" [] (some "Z"), .move .card ⟨"Z", none, some 1, "a"⟩,
        .move .card ⟨"X", none, some 0, "b"⟩, .delete .card "Y", .create .card "a" [] none]
    let reached := ops.foldl (Store.perform policy) .empty
    (zero false).lt policy.threshold = true ∧
      Along (Store.perform policy)
        (fun s op => op.TakesFreeId s ∧ (s.perform policy op).Moderate) .empty ops ∧
      (reached.view .card "a").map (fun entry => (entry.id, entry.position)) =
        [("Z", .ofInt 2), ("card-4", .ofInt 3)] ∧
      (∀ gap ∈ gaps (reached.view .card "a"), (lesser policy.threshold (.ofInt 1)).le gap = true) ∧
      (reached.view .card "a").Pairwise fun a b => a.position.lt b.position = true := by
  intro policy ops reached
  have hthreshold : (zero false).lt policy.threshold = true := by
    decide +kernel
  have hops : Along (Store.perform policy)
      (fun s op => op.TakesFreeId s ∧ (s.perform policy op).Moderate) .empty ops := by
    decide +kernel
  exact ⟨hthreshold, hops, by decide +kernel, gaps_run hthreshold hops .card "a"⟩

end Kanban
