/-
What a renumbering makes of a view.  New positions are given only to entries that do not
stand at their index yet; together with the old positions of the others they are
1, 2, 3, … in the order of the view.  So the renumbered view is in canonical order, needs
no renumbering and has nothing left to renumber.
-/
import Kanban.Proofs.Binary64.Whole
import Kanban.Proofs.Ordering.Spacing

namespace Kanban

open Binary64

/-- The indices of `count` entries, counted from one, as positions. -/
def indices (count : Nat) : List Binary64 :=
  (List.range' 1 count).map fun index : Nat => ofInt index

/-- Whether an entry, paired with its index, stands elsewhere. -/
def Misplaced (entry : Sibling Binary64 × Nat) : Prop :=
  entry.1.position.units? ≠ some ((entry.2 : Int) * scale)

instance : DecidablePred Misplaced := fun entry =>
  inferInstanceAs (Decidable (entry.1.position.units? ≠ some ((entry.2 : Int) * scale)))

/-- A view with the new positions of a renumbering, and all else as it was. -/
def renumbered (view : List (Sibling Binary64)) : List (Sibling Binary64) :=
  view.map fun entry =>
    { entry with position := (Mapping.get? entry.id (renormalize view)).getD entry.position }

variable {view : List (Sibling Binary64)}

/-- Up to 2^53 the indices are exact. -/
theorem units?_indices {count : Nat} (hcount : count ≤ Nat.pow 2 53) :
    (indices count).map units? =
      (List.range' 1 count).map fun index : Nat => some ((index : Int) * scale) := by
  unfold indices
  rw [List.map_map]
  apply List.map_congr_left
  intro index hindex
  have hle : index ≤ Nat.pow 2 53 := by
    have hrange := List.mem_range'_1.mp hindex
    generalize Nat.pow 2 53 = bound at hcount ⊢
    omega
  rw [Function.comp_apply, units?_ofInt hle]

/-- A view has the indices as its positions exactly if every entry stands at its index. -/
theorem positions_eq_indices_iff :
    view.map Sibling.position = indices view.length ↔
      ∀ place entry, view[place]? = some entry → entry.position = ofInt (place + 1 : Nat) := by
  constructor
  · intro hpositions place entry hentry
    have hposition : (view.map Sibling.position)[place]? = some entry.position := by
      rw [List.getElem?_map, hentry, Option.map_some]
    obtain ⟨hplace, -⟩ := List.getElem?_eq_some_iff.mp hentry
    rw [hpositions] at hposition
    simpa [indices, hplace, Nat.add_comm, eq_comm] using hposition
  · intro hindices
    apply List.ext_getElem
    · simp [indices]
    · intro place hplace _
      rw [List.length_map] at hplace
      rw [List.getElem_map, hindices place _ (List.getElem?_eq_getElem hplace)]
      simp [indices, Nat.add_comm]

/-- The new positions of a renumbering, in the order of the view.  The induction is on the
view; the entries ahead of it have been given theirs. -/
theorem renormalizeFrom_eq (index : Nat) {updates : Mapping Binary64}
    (hids : (view.map Sibling.id).Nodup) (hnew : ∀ entry ∈ view, entry.id ∉ updates.keys)
    (hlength : index + view.length ≤ Nat.pow 2 53) :
    renormalizeFrom index view updates =
      updates ++ ((view.zipIdx index).filter Misplaced).map fun entry =>
        (entry.1.id, ofInt (entry.2 : Nat)) := by
  induction view generalizing index updates with
  | nil => simp [renormalizeFrom]
  | cons entry rest ih =>
      obtain ⟨hfirst, hrest⟩ := List.nodup_cons.mp hids
      have hlater : ∀ other ∈ rest, other.id ≠ entry.id := by
        intro other hother hsame
        exact hfirst (List.mem_map.mpr ⟨other, hother, hsame⟩)
      rw [List.length_cons] at hlength
      have hindex : entry.position.same (ofInt index) = true ↔ ¬ Misplaced (entry, index) := by
        rw [same_ofInt_iff (by omega), Misplaced, not_not]
      rw [renormalizeFrom, List.zipIdx_cons, List.filter_cons]
      by_cases hplace : Misplaced (entry, index)
      · have hlast := Mapping.set_of_not_mem (hnew entry List.mem_cons_self) (ofInt (index : Nat))
        rw [if_neg (by simpa [hindex] using hplace), if_pos (by simpa using hplace), hlast,
          ih (index + 1) hrest ?_ (by omega)]
        · simp
        · intro other hother
          have hold := hnew other (List.mem_cons_of_mem entry hother)
          simpa [Mapping.keys, hlater other hother] using hold
      · rw [if_pos (hindex.mpr hplace), if_neg (by simpa using hplace)]
        apply ih (index + 1) hrest ?_ (by omega)
        exact fun other hother => hnew other (List.mem_cons_of_mem entry hother)

theorem renormalize_eq (hids : (view.map Sibling.id).Nodup)
    (hlength : view.length < Nat.pow 2 53) :
    renormalize view = ((view.zipIdx 1).filter Misplaced).map fun entry =>
      (entry.1.id, ofInt (entry.2 : Nat)) := by
  rw [renormalize, renormalizeFrom_eq 1 hids (by simp [Mapping.keys]) (by omega), List.nil_append]

theorem ids_renumbered : (renumbered view).map Sibling.id = view.map Sibling.id := by
  rw [renumbered, List.map_map]
  rfl

theorem length_renumbered : (renumbered view).length = view.length :=
  List.length_map _

/-- A renumbered entry stands at its index, counted from one. -/
theorem position_of_renumbered (hids : (view.map Sibling.id).Nodup) {place : Nat}
    {entry : Sibling Binary64} (hentry : (renumbered view)[place]? = some entry) :
    entry.position = ofInt (place + 1 : Nat) := by
  rw [renumbered, List.getElem?_map, Option.map_eq_some_iff] at hentry
  obtain ⟨other, hother, rfl⟩ := hentry
  exact position_renormalize hids hother

theorem positions_renumbered (hids : (view.map Sibling.id).Nodup) :
    (renumbered view).map Sibling.position = indices view.length := by
  rw [← length_renumbered]
  exact positions_eq_indices_iff.mpr fun _ _ hentry => position_of_renumbered hids hentry

section

variable (hpositions : view.map Sibling.position = indices view.length)
  (hlength : view.length < Nat.pow 2 53)

include hpositions hlength

theorem isModerate_of_positions : ∀ entry ∈ view, entry.position.IsModerate := by
  intro entry hentry
  obtain ⟨place, hplace⟩ := List.mem_iff_getElem?.mp hentry
  obtain ⟨hbound, -⟩ := List.getElem?_eq_some_iff.mp hplace
  rw [positions_eq_indices_iff.mp hpositions place entry hplace]
  exact isModerate_ofInt (by omega)

/-- Entries at their indices lie one apart. -/
theorem spaced_of_positions : Spaced (ofInt 1) view :=
  spaced_of_indices (isModerate_of_positions hpositions hlength)
    (positions_eq_indices_iff.mp hpositions)

/-- Entries at their indices are in canonical order, whatever their ids. -/
theorem orderSiblings_of_positions : orderSiblings view = view := by
  have hfinite : ∀ entry ∈ view, entry.position.IsFinite :=
    fun entry hentry => (isModerate_of_positions hpositions hlength entry hentry).isFinite
  have hincreasing := (spaced_of_positions hpositions hlength).pairwise_lt hfinite zero_lt_one
  exact orderBy_of_pairwise (hincreasing.imp Sibling.le_of_lt)
    fun entry hentry => (hfinite entry hentry).ne_nan

/-- Entries at their indices have nothing to renumber. -/
theorem renormalize_of_positions (hids : (view.map Sibling.id).Nodup) :
    renormalize view = [] := by
  rw [renormalize_eq hids hlength, List.map_eq_nil_iff, List.filter_eq_nil_iff]
  rintro ⟨entry, index⟩ hentry
  obtain ⟨hone, hplace⟩ := List.mem_zipIdx_iff_le_and_getElem?_sub.mp hentry
  obtain ⟨hbound, -⟩ := List.getElem?_eq_some_iff.mp hplace
  have hposition := positions_eq_indices_iff.mp hpositions _ entry hplace
  rw [Nat.sub_add_cancel hone] at hposition
  have hvalue : entry.position.units? = some ((index : Int) * scale) := by
    rw [hposition, units?_ofInt (by omega)]
  exact fun hmisplaced => of_decide_eq_true hmisplaced hvalue

end

/-- A renumbering of a view of distinct ids, shorter than 2^53, names the entries that do not
stand at their index, in the order of the view, and no others.  With these positions the view
stands at 1, 2, 3, …, exactly and in the order it had; entries at these positions are in
canonical order whatever their ids and creation numbers, there is nothing left to renumber,
and no threshold up to one asks for it. -/
theorem renumbering_minimal (view : List (Sibling Binary64)) (hids : (view.map Sibling.id).Nodup)
    (hlength : view.length < Nat.pow 2 53) :
    (renormalize view = ((view.zipIdx 1).filter Misplaced).map fun entry =>
      (entry.1.id, ofInt (entry.2 : Nat))) ∧
    (renumbered view).map Sibling.position = indices view.length ∧
    ((indices view.length).map units? =
      (List.range' 1 view.length).map fun index : Nat => some ((index : Int) * scale)) ∧
    (∀ other : List (Sibling Binary64),
      other.map Sibling.position = (renumbered view).map Sibling.position →
        orderSiblings other = other) ∧
    renormalize (renumbered view) = [] ∧
    ∀ threshold : Binary64, threshold.le (ofInt 1) = true →
      needsRenormalization (renumbered view) threshold = false := by
  have hpositions := positions_renumbered hids
  have hnumbered : (renumbered view).map Sibling.position = indices (renumbered view).length := by
    rw [hpositions, length_renumbered]
  have hshort : (renumbered view).length < Nat.pow 2 53 := by rwa [length_renumbered]
  refine ⟨renormalize_eq hids hlength, hpositions, units?_indices (Nat.le_of_lt hlength),
    ?_, ?_, ?_⟩
  · intro other hother
    have hsame : other.length = view.length := by
      simpa [length_renumbered] using congrArg List.length hother
    apply orderSiblings_of_positions
    · rw [hother, hpositions, hsame]
    · rwa [hsame]
  · exact renormalize_of_positions hnumbered hshort (by rwa [ids_renumbered])
  · intro threshold hthreshold
    exact (spaced_of_positions hnumbered hshort).not_needsRenormalization hthreshold

/-- Five entries out of order: two at their index, and one each at another's index, at no
number and at an infinity. -/
def disordered : List (Sibling Binary64) :=
  [⟨"C", ofInt 1, "l", 3⟩, ⟨"B", ofInt 1, "l", 2⟩, ⟨"E", .nan, "l", 5⟩, ⟨"D", ofInt 4, "l", 4⟩,
    ⟨"A", .infinite true, "l", 1⟩]

/-- The three that stand elsewhere move to their index. -/
theorem renumbering_minimal_disordered :
    renormalize disordered = [("B", ofInt 2), ("E", ofInt 3), ("A", ofInt 5)] ∧
    (renumbered disordered).map Sibling.position =
      [ofInt 1, ofInt 2, ofInt 3, ofInt 4, ofInt 5] ∧
    orderSiblings (renumbered disordered) = renumbered disordered ∧
    renormalize (renumbered disordered) = [] ∧
    needsRenormalization (renumbered disordered) (ofInt 1) = false := by
  obtain ⟨hnew, hpositions, -, hordered, hnothing, hwide⟩ :=
    renumbering_minimal disordered (by decide) (by decide)
  refine ⟨?_, hpositions, hordered _ rfl, hnothing, hwide _ ?_⟩
  · rw [hnew]
    decide +kernel
  · decide +kernel

end Kanban
