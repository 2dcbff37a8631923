/-
Planned moves.  A plan either leaves the view as it is or puts the moved entry
into its slot among the others; among finite positions there is always room.
-/
import Mathlib.Data.List.InsertIdx
import Kanban.Ordering.Placement
import Kanban.Proofs.Ordering.Gaps

namespace Kanban

open Binary64

theorem clampIndex_eq (index : Int) (length : Nat) :
    (clampIndex index length : Int) = max 0 (min index length) := by
  unfold clampIndex
  omega

theorem clampIndex_le (index : Int) (length : Nat) : clampIndex index length ≤ length := by
  unfold clampIndex
  omega

section

variable {P : Type} {siblings : List (Sibling P)} {request : MoveRequest} {entry : Sibling P}

theorem mem_of_current? (hcurrent : current? siblings request = some entry) :
    entry ∈ siblings ∧ entry.id = request.id := by
  simp only [current?, Option.orElse_eq_orElse, Option.orElse_eq_or,
    Option.or_eq_some_iff] at hcurrent
  rcases hcurrent with hindexed | ⟨-, hfound⟩
  · split at hindexed
    · obtain ⟨hplace, hid⟩ := Option.filter_eq_some_iff.mp hindexed
      exact ⟨List.mem_of_getElem? hplace, of_decide_eq_true hid⟩
    · cases hindexed
  · have hid := List.find?_some hfound
    exact ⟨List.mem_of_find?_eq_some hfound, of_decide_eq_true hid⟩

theorem exists_current (hentry : entry ∈ siblings) (hid : entry.id = request.id) :
    ∃ current, current? siblings request = some current := by
  apply Option.ne_none_iff_exists'.mp
  intro hnone
  simp only [current?, Option.orElse_eq_orElse, Option.orElse_eq_or,
    Option.or_eq_none_iff] at hnone
  have habsent := List.find?_eq_none.mp hnone.2 entry hentry
  exact habsent (by simpa using hid)

theorem current?_eq_none_iff :
    current? siblings request = none ↔ request.id ∉ siblings.map Sibling.id := by
  constructor
  · intro hnone hmem
    obtain ⟨entry, hentry, hid⟩ := List.mem_map.mp hmem
    obtain ⟨current, hcurrent⟩ := exists_current hentry hid
    rw [hnone] at hcurrent
    cases hcurrent
  · intro habsent
    cases hcurrent : current? siblings request with
    | none => rfl
    | some entry =>
        obtain ⟨hentry, hid⟩ := mem_of_current? hcurrent
        exact absurd (hid ▸ List.mem_map_of_mem hentry) habsent

end

section

variable {P : Type} [Coordinate P] {siblings : List (Sibling P)} {request : MoveRequest}
  {entity : Option (Sibling P)} {placement : Placement P}

/-- What a plan is made of. -/
theorem planMove_eq_ok_iff :
    planMove siblings request entity = .ok placement ↔
      ∃ toIndex, request.toIndex = some toIndex ∧
        let remaining := detach siblings request.id
        let near := neighbors remaining toIndex
        (∃ entry, current? siblings request = some entry ∧ request.fromIndex = some toIndex ∧
            placement = ⟨entry.position, near.1, near.2, siblings, true⟩) ∨
          ((current? siblings request = none ∨ request.fromIndex ≠ some toIndex) ∧
            ∃ position, positionBetween near.1 near.2 = .ok position ∧
              placement = ⟨position, near.1, near.2,
                placeAt remaining (clampIndex toIndex remaining.length)
                  (entity <|> current? siblings request) position request.target, false⟩) := by
  unfold planMove
  cases request.toIndex with
  | none => simp
  | some toIndex =>
      simp only [Option.some.injEq, exists_eq_left']
      by_cases hindex : request.fromIndex = some toIndex
      · cases current? siblings request with
        | none =>
            simp only [hindex, Option.filter_none, reduceCtorEq, false_and, exists_false,
              true_or, true_and, false_or]
            cases positionBetween (neighbors (detach siblings request.id) toIndex).1
              (neighbors (detach siblings request.id) toIndex).2 <;> simp [eq_comm]
        | some entry => simp [hindex, Option.filter, eq_comm]
      · have hfilter : (current? siblings request).filter (fun _ => decide (
            request.fromIndex = some toIndex)) = none := by
          cases current? siblings request <;> simp [hindex, Option.filter]
        simp only [hindex, false_and, and_false, exists_false, ne_eq, not_false_eq_true,
          or_true, true_and, false_or]
        cases positionBetween (neighbors (detach siblings request.id) toIndex).1
          (neighbors (detach siblings request.id) toIndex).2 <;> simp [eq_comm]

/-- An entry that does not stay is planned into its slot. -/
theorem exists_planMove_of_position {entry : Sibling P} {toIndex : Int} {position : P}
    (hindex : request.toIndex = some toIndex) (hmoves : request.fromIndex ≠ some toIndex)
    (hid : entry.id = request.id)
    (hposition : insertPosition (detach siblings entry.id) toIndex = .ok position) :
    ∃ placement, planMove siblings request (some entry) = .ok placement ∧
      placement.noop = false ∧ placement.position = position ∧
      placement.ordered = placeAt (detach siblings entry.id)
        (clampIndex toIndex (detach siblings entry.id).length) (some entry) placement.position
        request.target := by
  rw [hid] at hposition ⊢
  exact ⟨_, planMove_eq_ok_iff.mpr
    ⟨toIndex, hindex, Or.inr ⟨Or.inr hmoves, position, hposition, rfl⟩⟩, rfl, rfl, rfl⟩

omit [Coordinate P] in
theorem mem_placeAt {remaining : List (Sibling P)} {slot : Nat} {entry : Sibling P}
    {position : P} {target : String} {x : Sibling P}
    (hx : x ∈ placeAt remaining slot (some entry) position target) :
    x.id = entry.id ∨ x ∈ remaining := by
  unfold placeAt at hx
  rcases List.eq_or_mem_of_mem_insertIdx hx with rfl | hx
  · exact Or.inl rfl
  · exact Or.inr hx

omit [Coordinate P] in
theorem mem_detach {id : String} {x : Sibling P} :
    x ∈ detach siblings id ↔ x ∈ siblings ∧ x.id ≠ id := by
  simp [detach]

/-- A planned view holds the moved entry and entries of the old view only. -/
theorem planMove_ordered {moved x : Sibling P}
    (hplan : planMove siblings request (some moved) = .ok placement)
    (hx : x ∈ placement.ordered) : x.id = moved.id ∨ x ∈ siblings := by
  obtain ⟨toIndex, -, ⟨entry, -, -, rfl⟩ | ⟨-, position, -, rfl⟩⟩ := planMove_eq_ok_iff.mp hplan
  · exact Or.inr hx
  · rcases mem_placeAt hx with hid | hx
    · exact Or.inl hid
    · exact Or.inr (mem_detach.mp hx).1

end

end Kanban
