/-
Slots of a view whose positions are finite.  There is a position for every slot,
and if the planned view needs no renumbering it is finite and the planned view
is strictly increasing.
-/
import Mathlib.Data.List.InsertIdx
import Kanban.Proofs.Ordering.Planning

namespace Kanban

open Binary64

theorem insertIdx_eq_take_cons_drop {A : Type} {xs : List A} {slot : Nat}
    (hslot : slot ≤ xs.length) (x : A) :
    xs.insertIdx slot x = xs.take slot ++ x :: xs.drop slot := by
  induction slot generalizing xs with
  | zero => rfl
  | succ slot ih =>
      cases xs with
      | nil => exact absurd hslot (by simp)
      | cons y rest =>
          rw [List.insertIdx_succ_cons, ih (Nat.le_of_succ_le_succ hslot)]
          rfl

/-- Taking away the entry that was placed leaves the others. -/
theorem detach_placeAt {P : Type} {siblings : List (Sibling P)} {moved : Sibling P} {slot : Nat}
    (hslot : slot ≤ (detach siblings moved.id).length) {position : P} {target : String} :
    detach (placeAt (detach siblings moved.id) slot (some moved) position target) moved.id =
      detach siblings moved.id := by
  have hothers (part : List (Sibling P)) (hpart : part ⊆ detach siblings moved.id) :
      detach part moved.id = part := by
    apply List.filter_eq_self.mpr
    intro other hother
    exact decide_eq_true (mem_detach.mp (hpart hother)).2
  rw [placeAt, insertIdx_eq_take_cons_drop hslot, detach, List.filter_append, List.filter_cons,
    if_neg (by simp)]
  change detach _ _ ++ detach _ _ = _
  rw [hothers _ (List.take_subset ..), hothers _ (List.drop_subset ..), List.take_append_drop]

/-- The neighbours of a slot are the last entry before it and the first after it. -/
theorem neighbors_eq {P : Type} (remaining : List (Sibling P)) (index : Int) :
    neighbors remaining index =
      ((remaining.take (clampIndex index remaining.length)).getLast?,
        (remaining.drop (clampIndex index remaining.length)).head?) := by
  have hslot := clampIndex_le index remaining.length
  unfold neighbors
  generalize clampIndex index remaining.length = slot at hslot
  cases slot with
  | zero => simp [List.head?_eq_getElem?]
  | succ slot =>
      have hprev : remaining[slot]? = some remaining[slot] := List.getElem?_eq_getElem hslot
      simp [List.getLast?_take, hprev]

/-- What is placed into a slot has the neighbours of the slot beside it. -/
theorem neighbors_placeAt {P : Type} (remaining : List (Sibling P)) (index : Int)
    (entry : Sibling P) (position : P) (target : String) :
    let slot := clampIndex index remaining.length
    let ordered := placeAt remaining slot (some entry) position target
    (neighbors remaining index).1 = (ordered.take slot).getLast? ∧
      (neighbors remaining index).2 = (ordered.drop (slot + 1)).head? := by
  intro slot ordered
  have hslot : slot ≤ remaining.length := clampIndex_le index remaining.length
  have hfront : (remaining.take slot).length = slot := List.length_take_of_le hslot
  have hordered : ordered = remaining.take slot ++
      { entry with position := position, container := target } :: remaining.drop slot :=
    insertIdx_eq_take_cons_drop hslot _
  rw [neighbors_eq, hordered]
  constructor
  · rw [List.take_left' hfront]
  · rw [List.append_cons, List.drop_left' (by simp [hfront])]

/-- After a finite position there is a finite one that is not below it. -/
theorem exists_after {x : Binary64} (hx : x.IsFinite) :
    ∃ y, Coordinate.after x = .ok y ∧ y.IsFinite ∧
      ∃ low high, x.rank = some low ∧ y.rank = some high ∧ low ≤ high := by
  obtain ⟨negative, mag, hmag, rfl⟩ := hx.exists_eq
  obtain ⟨whole, hceil, habove, hnear⟩ := ceil_bounds negative hmag
  obtain ⟨place, hplace, hle⟩ := le_rank_ofUnits hmag habove
  refine ⟨.ofInt (whole + 1), ?_, isFinite_ofInt hmag hnear, signed negative mag, place, rfl,
    hplace, hle⟩
  change (Binary64.ceil _).map _ = _
  rw [hceil]
  rfl

theorem exists_before {x : Binary64} (hx : x.IsFinite) :
    ∃ y, Coordinate.before x = .ok y ∧ y.IsFinite := by
  obtain ⟨negative, mag, hmag, rfl⟩ := hx.exists_eq
  obtain ⟨whole, hfloor, hnear⟩ := floor_bounds negative hmag
  refine ⟨.ofInt (whole - 1), ?_, isFinite_ofInt hmag hnear⟩
  change (Binary64.floor _).map _ = _
  rw [hfloor]
  rfl

theorem isFinite_first : (Coordinate.first : Binary64).IsFinite := by
  have hone : 1 ≤ Nat.pow 2 53 := Nat.one_le_two_pow
  exact isFinite_of_rank_count hone (rank_ofInt_natCast hone)

/-- Between finite positions there is room; only a midpoint may fail to be finite,
and it is a number all the same. -/
theorem exists_positionBetween (prev next : Option (Sibling Binary64))
    (hprev : ∀ entry, prev = some entry → entry.position.IsFinite)
    (hnext : ∀ entry, next = some entry → entry.position.IsFinite) :
    ∃ position, positionBetween prev next = .ok position ∧ position ≠ .nan ∧
      (prev = none ∨ next = none → position.IsFinite) := by
  cases prev with
  | none =>
      cases next with
      | none => exact ⟨_, rfl, isFinite_first.ne_nan, fun _ => isFinite_first⟩
      | some high =>
          obtain ⟨position, hposition, hfinite⟩ := exists_before (hnext high rfl)
          exact ⟨position, hposition, hfinite.ne_nan, fun _ => hfinite⟩
  | some low =>
      cases next with
      | none =>
          obtain ⟨position, hposition, hfinite, -⟩ := exists_after (hprev low rfl)
          exact ⟨position, hposition, hfinite.ne_nan, fun _ => hfinite⟩
      | some high =>
          exact ⟨_, rfl, half_add_ne_nan (hprev low rfl) (hnext high rfl), by simp⟩

section

variable {remaining : List (Sibling Binary64)} {index : Int} {entry : Sibling Binary64}
  {position threshold : Binary64} {target : String}

/-- An entry at a position that is a number joins finite ones. -/
theorem measurable_insertIdx {slot : Nat} (hslot : slot ≤ remaining.length)
    (hfinite : ∀ other ∈ remaining, other.position.IsFinite) (entry : Sibling Binary64)
    (hentry : entry.position ≠ .nan) :
    Measurable (remaining.insertIdx slot entry) := by
  have hperm := List.perm_insertIdx entry remaining hslot
  constructor
  · intro other hother
    rcases List.mem_cons.mp (hperm.mem_iff.mp hother) with rfl | hother
    · exact hentry
    · exact (hfinite other hother).ne_nan
  · rw [hperm.pairwise_iff fun hpair => hpair.symm, List.pairwise_cons]
    constructor
    · intro other hother
      exact Or.inr (hfinite other hother)
    · exact (measurable_of_finite hfinite).finite

/-- What a plan makes of a view of finite positions: there is a position for the
slot, and unless the planned view needs renumbering it is finite and that view is
strictly increasing. -/
theorem exists_slot (hfinite : ∀ other ∈ remaining, other.position.IsFinite)
    (hthreshold : (zero false).lt threshold = true) (entry : Sibling Binary64)
    (target : String) (index : Int) :
    ∃ position,
      positionBetween (neighbors remaining index).1 (neighbors remaining index).2 =
        .ok position ∧
      let ordered := placeAt remaining (clampIndex index remaining.length) (some entry) position
        target
      needsRenormalization ordered threshold = false →
        position.IsFinite ∧ ordered.Pairwise fun a b => a.position.lt b.position = true := by
  have hslot := clampIndex_le index remaining.length
  rw [neighbors_eq]
  dsimp only
  generalize clampIndex index remaining.length = slot at hslot
  obtain ⟨position, hposition, hnumber, hoften⟩ := exists_positionBetween
    (remaining.take slot).getLast? (remaining.drop slot).head?
    (fun other hother => hfinite other (List.mem_of_mem_take (List.mem_of_getLast? hother)))
    (fun other hother => hfinite other (List.mem_of_mem_drop (List.mem_of_head? hother)))
  refine ⟨position, hposition, fun hwide => ?_⟩
  have hordered := (measurable_insertIdx hslot hfinite
    { entry with position := position, container := target } hnumber).pairwise_lt hthreshold hwide
  refine ⟨?_, hordered⟩
  -- Neighbours on both sides enclose the position.
  rw [insertIdx_eq_take_cons_drop hslot, List.pairwise_append, List.pairwise_cons] at hordered
  obtain ⟨-, ⟨hafter, -⟩, hbefore⟩ := hordered
  cases hprev : (remaining.take slot).getLast? with
  | none => exact hoften (Or.inl hprev)
  | some low =>
      cases hnext : (remaining.drop slot).head? with
      | none => exact hoften (Or.inr hnext)
      | some high =>
          exact isFinite_of_between
            (hbefore low (List.mem_of_getLast? hprev) _ List.mem_cons_self)
            (hafter high (List.mem_of_head? hnext))

/-- Among finite positions every index can be planned for. -/
theorem exists_planMove {siblings : List (Sibling Binary64)} {request : MoveRequest}
    {toIndex : Int} (hfinite : ∀ other ∈ siblings, other.position.IsFinite)
    (hindex : request.toIndex = some toIndex) (moved : Option (Sibling Binary64)) :
    ∃ placement, planMove siblings request moved = .ok placement := by
  obtain ⟨position, hposition, -⟩ := exists_positionBetween
    (neighbors (detach siblings request.id) toIndex).1
    (neighbors (detach siblings request.id) toIndex).2
    (by
      rw [neighbors_eq]
      intro other hother
      exact hfinite other (mem_detach.mp (List.mem_of_mem_take (List.mem_of_getLast? hother))).1)
    (by
      rw [neighbors_eq]
      intro other hother
      exact hfinite other (mem_detach.mp (List.mem_of_mem_drop (List.mem_of_head? hother))).1)
  cases hcurrent : current? siblings request with
  | none =>
      exact ⟨_, planMove_eq_ok_iff.mpr
        ⟨toIndex, hindex, Or.inr ⟨Or.inl hcurrent, position, hposition, rfl⟩⟩⟩
  | some entry =>
      by_cases hfrom : request.fromIndex = some toIndex
      · exact ⟨_, planMove_eq_ok_iff.mpr
          ⟨toIndex, hindex, Or.inl ⟨entry, hcurrent, hfrom, rfl⟩⟩⟩
      · exact ⟨_, planMove_eq_ok_iff.mpr
          ⟨toIndex, hindex, Or.inr ⟨Or.inr hfrom, position, hposition, rfl⟩⟩⟩

/-- A plan for an entry that does not stay puts it into its slot. -/
theorem exists_plan {siblings : List (Sibling Binary64)} {request : MoveRequest} {toIndex : Int}
    (hfinite : ∀ other ∈ siblings, other.position.IsFinite)
    (hthreshold : (zero false).lt threshold = true) (hindex : request.toIndex = some toIndex)
    (hmoves : request.fromIndex ≠ some toIndex) (hid : entry.id = request.id) :
    ∃ placement, planMove siblings request (some entry) = .ok placement ∧
      placement.noop = false ∧
      placement.ordered = placeAt (detach siblings entry.id)
        (clampIndex toIndex (detach siblings entry.id).length) (some entry) placement.position
        request.target ∧
      (needsRenormalization placement.ordered threshold = false →
        placement.position.IsFinite ∧
          placement.ordered.Pairwise fun a b => a.position.lt b.position = true) := by
  have hrest : ∀ other ∈ detach siblings entry.id, other.position.IsFinite :=
    fun other hother => hfinite other (mem_detach.mp hother).1
  obtain ⟨position, hposition, hwide⟩ := exists_slot hrest hthreshold entry request.target toIndex
  obtain ⟨placement, hplan, hnoop, rfl, hordered⟩ :=
    exists_planMove_of_position hindex hmoves hid hposition
  refine ⟨placement, hplan, hnoop, hordered, ?_⟩
  rw [hordered]
  exact hwide

end

end Kanban
