/-
Exact positions.  Where nothing is rounded, the formula finds room in every slot: a
position strictly between the neighbours.  So a planned view increases strictly if the
view did that it was planned against, through any number of moves planned one after the
other.
-/
import Mathlib.Data.List.Nodup
import Kanban.Proofs.Ordering.Slots
import Kanban.Proofs.Run

namespace Kanban

theorem lt_after (x : Rat) : ∃ y, Coordinate.after x = .ok y ∧ x < y := by
  refine ⟨(x.ceil + 1 : Int), rfl, ?_⟩
  have hceil := Rat.le_ceil (x := x)
  rw [Rat.intCast_add]
  grind

theorem before_lt (x : Rat) : ∃ y, Coordinate.before x = .ok y ∧ y < x := by
  refine ⟨(x.floor - 1 : Int), rfl, ?_⟩
  have hfloor := Rat.floor_le x
  rw [Rat.intCast_sub]
  grind

theorem between_strict {low high : Rat} (hroom : low < high) :
    low < Coordinate.between low high ∧ Coordinate.between low high < high := by
  change low < (low + high) / 2 ∧ (low + high) / 2 < high
  grind

/-- Exact neighbours that are in order have a position strictly between them. -/
theorem exists_strictly_between (prev next : Option (Sibling Rat))
    (hroom : ∀ low ∈ prev, ∀ high ∈ next, low.position < high.position) :
    ∃ position, positionBetween prev next = .ok position ∧
      (∀ low ∈ prev, low.position < position) ∧ ∀ high ∈ next, position < high.position := by
  cases prev with
  | none =>
      cases next with
      | none => exact ⟨1, rfl, by simp, by simp⟩
      | some high =>
          obtain ⟨position, hposition, hbelow⟩ := before_lt high.position
          exact ⟨position, hposition, by simp, by simpa using hbelow⟩
  | some low =>
      cases next with
      | none =>
          obtain ⟨position, hposition, habove⟩ := lt_after low.position
          exact ⟨position, hposition, by simpa using habove, by simp⟩
      | some high =>
          obtain ⟨habove, hbelow⟩ := between_strict (hroom low rfl high rfl)
          exact ⟨_, rfl, by simpa using habove, by simpa using hbelow⟩

/-- A view of distinct entries whose exact positions increase strictly. -/
structure Ascending (view : List (Sibling Rat)) : Prop where
  ids : (view.map Sibling.id).Nodup
  positions : view.Pairwise fun a b => a.position < b.position

namespace Ascending

variable {view siblings : List (Sibling Rat)} {entry : Sibling Rat}

theorem sublist (hview : Ascending view) {part : List (Sibling Rat)} (hpart : part.Sublist view) :
    Ascending part :=
  ⟨hview.ids.sublist (hpart.map Sibling.id), hview.positions.sublist hpart⟩

theorem without (hview : Ascending view) (id : String) : Ascending (detach view id) :=
  hview.sublist List.filter_sublist

/-- What lies past the last entry lies past all. -/
theorem lt_of_last (hview : Ascending view) {position : Rat}
    (hlast : ∀ last ∈ view.getLast?, last.position < position) :
    ∀ other ∈ view, other.position < position := by
  intro other hother
  obtain ⟨last, hmem⟩ := Option.isSome_iff_exists.mp
    (List.getLast?_isSome.mpr (List.ne_nil_of_mem hother))
  have hpast := hlast last hmem
  obtain ⟨before, rfl⟩ := List.getLast?_eq_some_iff.mp hmem
  rcases List.mem_append.mp hother with hbefore | hsame
  · have hlt := (List.pairwise_append.mp hview.positions).2.2 other hbefore last
      (List.mem_singleton_self last)
    grind
  · obtain rfl := List.mem_singleton.mp hsame
    exact hpast

/-- What lies before the first entry lies before all. -/
theorem lt_of_head (hview : Ascending view) {position : Rat}
    (hhead : ∀ first ∈ view.head?, position < first.position) :
    ∀ other ∈ view, position < other.position := by
  cases view with
  | nil => simp
  | cons first rest =>
      have hbefore := hhead first rfl
      rintro other (_ | ⟨_, hother⟩)
      · exact hbefore
      · have hlt := (List.pairwise_cons.mp hview.positions).1 other hother
        grind

/-- A new entry that stands strictly between the neighbours of a slot keeps the view
ascending. -/
theorem insert (hview : Ascending view) {slot : Nat} (hslot : slot ≤ view.length)
    (hnew : entry.id ∉ view.map Sibling.id)
    (habove : ∀ low ∈ (view.take slot).getLast?, low.position < entry.position)
    (hbelow : ∀ high ∈ (view.drop slot).head?, entry.position < high.position) :
    Ascending (view.insertIdx slot entry) := by
  constructor
  · rw [((List.perm_insertIdx entry view hslot).map Sibling.id).nodup_iff]
    exact List.nodup_cons.mpr ⟨hnew, hview.ids⟩
  · have hfront := (hview.sublist (List.take_sublist slot view)).lt_of_last habove
    have hback := (hview.sublist (List.drop_sublist slot view)).lt_of_head hbelow
    rw [insertIdx_eq_take_cons_drop hslot, List.pairwise_append, List.pairwise_cons]
    refine ⟨hview.positions.sublist (List.take_sublist slot view),
      ⟨hback, hview.positions.sublist (List.drop_sublist slot view)⟩, ?_⟩
    rintro low hlow high (_ | ⟨_, hhigh⟩)
    · exact hfront low hlow
    · have hleft := hfront low hlow
      have hright := hback high hhigh
      grind

end Ascending

section

variable {siblings : List (Sibling Rat)} {request : MoveRequest} {toIndex : Int}

/-- Every slot of an ascending view has an exact position strictly between its neighbours,
and what is placed there leaves the view ascending. -/
theorem Ascending.exists_slot (hsiblings : Ascending siblings) (id target : String)
    (toIndex : Int) :
    let remaining := detach siblings id
    let near := neighbors remaining toIndex
    ∃ position, positionBetween near.1 near.2 = .ok position ∧
      (∀ low ∈ near.1, low.position < position) ∧ (∀ high ∈ near.2, position < high.position) ∧
      ∀ moved : Sibling Rat, moved.id = id →
        Ascending (placeAt remaining (clampIndex toIndex remaining.length) (some moved) position
          target) := by
  intro remaining near
  have hremaining : Ascending remaining := hsiblings.without id
  have hslot := clampIndex_le toIndex remaining.length
  have hnear : near = _ := neighbors_eq remaining toIndex
  rw [hnear]
  generalize clampIndex toIndex remaining.length = slot at hslot
  obtain ⟨position, hposition, habove, hbelow⟩ := exists_strictly_between
    (remaining.take slot).getLast? (remaining.drop slot).head? (by
      intro low hlow high hhigh
      have hordered := hremaining.positions
      rw [← List.take_append_drop slot remaining, List.pairwise_append] at hordered
      exact hordered.2.2 low (List.mem_of_getLast? hlow) high (List.mem_of_head? hhigh))
  refine ⟨position, hposition, habove, hbelow, fun moved hid => ?_⟩
  have hnew : moved.id ∉ remaining.map Sibling.id := by
    intro hmem
    obtain ⟨other, hother, hsame⟩ := List.mem_map.mp hmem
    exact (mem_detach.mp hother).2 (hsame.trans hid)
  exact hremaining.insert hslot hnew habove hbelow

/-- What an exact plan makes of a view for an entry and an index: the position lies strictly
between the neighbours of the slot, and the planned view is ascending, with the entry in its
slot and the others as they were. -/
structure Placement.Strict (placement : Placement Rat) (siblings : List (Sibling Rat))
    (moved : Sibling Rat) (target : String) (toIndex : Int) : Prop where
  above : ∀ prev ∈ placement.prev, prev.position < placement.position
  below : ∀ next ∈ placement.next, placement.position < next.position
  ascending : Ascending placement.ordered
  inSlot : ∃ slot : Nat,
    (slot : Int) = max 0 (min toIndex (detach siblings moved.id).length) ∧
      placement.ordered[slot]? =
        some { moved with position := placement.position, container := target } ∧
      placement.prev = (placement.ordered.take slot).getLast? ∧
      placement.next = (placement.ordered.drop (slot + 1)).head?
  others : detach placement.ordered moved.id = detach siblings moved.id

/-- An ascending view has a strict plan for an entry that does not stay. -/
theorem Ascending.exists_strict (hsiblings : Ascending siblings) {moved : Sibling Rat}
    {entity : Option (Sibling Rat)} (hindex : request.toIndex = some toIndex)
    (hmoves : request.fromIndex = some toIndex → request.id ∉ siblings.map Sibling.id)
    (hid : moved.id = request.id)
    (hmoved : entity = some moved ∨ entity = none ∧ moved ∈ siblings) :
    ∃ placement, planMove siblings request entity = .ok placement ∧ placement.noop = false ∧
      placement.Strict siblings moved request.target toIndex := by
  obtain ⟨position, hposition, habove, hbelow, hplaced⟩ :=
    hsiblings.exists_slot request.id request.target toIndex
  have hstays : current? siblings request = none ∨ request.fromIndex ≠ some toIndex := by
    by_cases hfrom : request.fromIndex = some toIndex
    · exact Or.inl (current?_eq_none_iff.mpr (hmoves hfrom))
    · exact Or.inr hfrom
  have hentry : (entity <|> current? siblings request) = some moved := by
    rcases hmoved with rfl | ⟨rfl, hmem⟩
    · rfl
    · obtain ⟨current, hcurrent⟩ := exists_current hmem hid
      obtain ⟨hstands, hsame⟩ := mem_of_current? hcurrent
      have heq : current = moved :=
        List.inj_on_of_nodup_map hsiblings.ids hstands hmem (hsame.trans hid.symm)
      rw [hcurrent, heq]
      rfl
  refine ⟨_, planMove_eq_ok_iff.mpr
    ⟨toIndex, hindex, Or.inr ⟨hstays, position, hposition, rfl⟩⟩, rfl, ?_⟩
  rw [hentry]
  rw [← hid] at habove hbelow hplaced ⊢
  have hslot := clampIndex_le toIndex (detach siblings moved.id).length
  obtain ⟨hprev, hnext⟩ :=
    neighbors_placeAt (detach siblings moved.id) toIndex moved position request.target
  refine ⟨habove, hbelow, hplaced moved rfl, ?_, detach_placeAt hslot⟩
  exact ⟨clampIndex toIndex (detach siblings moved.id).length, clampIndex_eq toIndex _,
    List.getElem?_insertIdx_self.trans (if_pos hslot), hprev, hnext⟩

/-- A plan for an entry under the asked id leaves an ascending view ascending, whether the
entry stays, moves or is not there at all. -/
theorem Ascending.exists_plan (hsiblings : Ascending siblings) {entity : Option (Sibling Rat)}
    (hindex : request.toIndex = some toIndex) (hentity : ∀ entry ∈ entity, entry.id = request.id) :
    ∃ placement, planMove siblings request entity = .ok placement ∧
      Ascending placement.ordered := by
  by_cases hstays : request.fromIndex = some toIndex ∧ request.id ∈ siblings.map Sibling.id
  · obtain ⟨hfrom, hmem⟩ := hstays
    obtain ⟨entry, hentry, hid⟩ := List.mem_map.mp hmem
    obtain ⟨current, hcurrent⟩ := exists_current hentry hid
    exact ⟨_, planMove_eq_ok_iff.mpr
      ⟨toIndex, hindex, Or.inl ⟨current, hcurrent, hfrom, rfl⟩⟩, hsiblings⟩
  · have hmoves := not_and.mp hstays
    cases entity with
    | some entry =>
        obtain ⟨placement, hplan, -, hstrict⟩ := hsiblings.exists_strict hindex hmoves
          (hentity entry rfl) (Or.inl rfl)
        exact ⟨placement, hplan, hstrict.ascending⟩
    | none =>
        by_cases hmem : request.id ∈ siblings.map Sibling.id
        · obtain ⟨entry, hentry, hid⟩ := List.mem_map.mp hmem
          obtain ⟨placement, hplan, -, hstrict⟩ := hsiblings.exists_strict hindex hmoves hid
            (Or.inr ⟨rfl, hentry⟩)
          exact ⟨placement, hplan, hstrict.ascending⟩
        · have hcurrent := current?_eq_none_iff.mpr hmem
          obtain ⟨position, hposition, -⟩ :=
            hsiblings.exists_slot request.id request.target toIndex
          refine ⟨_, planMove_eq_ok_iff.mpr
            ⟨toIndex, hindex, Or.inr ⟨Or.inl hcurrent, position, hposition, rfl⟩⟩, ?_⟩
          rw [hcurrent]
          exact hsiblings.without request.id

end

/-- The view after moves that are planned one after the other, each against the view that
the one before it leads to. -/
def planAll {P : Type} [Coordinate P] (siblings : List (Sibling P)) :
    List (MoveRequest × Option (Sibling P)) → Except PlanError (List (Sibling P))
  | [] => .ok siblings
  | (request, entity) :: rest => do
      let placement ← planMove siblings request entity
      planAll placement.ordered rest

theorem Ascending.exists_planAll {siblings : List (Sibling Rat)} (hsiblings : Ascending siblings)
    {moves : List (MoveRequest × Option (Sibling Rat))}
    (hmoves : ∀ move ∈ moves,
      (∃ toIndex, move.1.toIndex = some toIndex) ∧ ∀ entry ∈ move.2, entry.id = move.1.id) :
    ∃ view, planAll siblings moves = .ok view ∧ Ascending view := by
  induction moves generalizing siblings with
  | nil => exact ⟨siblings, rfl, hsiblings⟩
  | cons move rest ih =>
      obtain ⟨⟨⟨toIndex, hindex⟩, hentity⟩, hrest⟩ := List.forall_mem_cons.mp hmoves
      obtain ⟨placement, hplan, hordered⟩ := hsiblings.exists_plan hindex hentity
      obtain ⟨view, hview, hascending⟩ := ih hordered hrest
      exact ⟨view, bind_eq_ok_iff.mpr ⟨placement, hplan, hview⟩, hascending⟩

/-- Without rounding, a move that names an index and is no standstill is planned strictly
between the neighbours of its slot: in a view of distinct entries whose positions increase
strictly, the planned view is such a view again, with the moved entry in its slot and the
others as they were.  So any number of moves, each planned against the view that the one
before it leads to, keeps the view strictly increasing. -/
theorem exact_placement {siblings : List (Sibling Rat)} (hsiblings : Ascending siblings) :
    (∀ (request : MoveRequest) (toIndex : Int) (entity : Option (Sibling Rat))
        (moved : Sibling Rat),
      request.toIndex = some toIndex →
      (request.fromIndex = some toIndex → request.id ∉ siblings.map Sibling.id) →
      moved.id = request.id → (entity = some moved ∨ entity = none ∧ moved ∈ siblings) →
      ∃ placement, planMove siblings request entity = .ok placement ∧ placement.noop = false ∧
        placement.Strict siblings moved request.target toIndex) ∧
    ∀ moves : List (MoveRequest × Option (Sibling Rat)),
      (∀ move ∈ moves, (∃ toIndex, move.1.toIndex = some toIndex) ∧
        ∀ entry ∈ move.2, entry.id = move.1.id) →
      ∃ view, planAll siblings moves = .ok view ∧ Ascending view := by
  constructor
  · intro request toIndex entity moved hindex hmoves hid hmoved
    exact hsiblings.exists_strict hindex hmoves hid hmoved
  · intro moves hmoves
    exact hsiblings.exists_planAll hmoves

/-- Two entries below zero, no whole numbers, and one far above. -/
def fractions : List (Sibling Rat) :=
  [⟨"A", -5 / 2, "l", 1⟩, ⟨"B", -1 / 3, "l", 2⟩, ⟨"C", 7, "l", 3⟩]

theorem ascending_fractions : Ascending fractions :=
  ⟨by decide, by decide +kernel⟩

/-- The last entry moves between the two below zero, then one from elsewhere joins at the
end and another in front. -/
theorem exact_placement_fractions :
    let inward : MoveRequest := ⟨"C", some 2, some 1, "l"⟩
    let joining (id : String) (index : Int) : MoveRequest × Option (Sibling Rat) :=
      (⟨id, none, some index, "l"⟩, some ⟨id, 0, "k", 4⟩)
    (∃ placement, planMove fractions inward none = .ok placement ∧ placement.noop = false ∧
      placement.Strict fractions ⟨"C", 7, "l", 3⟩ "l" 1 ∧ placement.position = -17 / 12) ∧
    ∃ view, planAll fractions [(inward, none), joining "D" 9, joining "E" (-2)] = .ok view ∧
      Ascending view ∧ view.map Sibling.position = [-4, -5 / 2, -17 / 12, -1 / 3, 1] := by
  intro inward joining
  obtain ⟨hplanned, hrun⟩ := exact_placement ascending_fractions
  constructor
  · obtain ⟨placement, hplan, hnoop, hstrict⟩ := hplanned inward 1 none ⟨"C", 7, "l", 3⟩ rfl
      (fun hstays => absurd hstays (by decide)) rfl (Or.inr ⟨rfl, by decide +kernel⟩)
    have hposition : (planMove fractions inward none).map Placement.position = .ok (-17 / 12) := by
      decide +kernel
    rw [hplan] at hposition
    exact ⟨placement, hplan, hnoop, hstrict, Except.ok.inj hposition⟩
  · obtain ⟨view, hview, hascending⟩ := hrun [(inward, none), joining "D" 9, joining "E" (-2)]
      (by
        rintro move (_ | ⟨_, _ | ⟨_, _ | ⟨_, hnone⟩⟩⟩)
        · exact ⟨⟨1, rfl⟩, by simp⟩
        · exact ⟨⟨9, rfl⟩, by simp [joining]⟩
        · exact ⟨⟨-2, rfl⟩, by simp [joining]⟩
        · cases hnone)
    have hpositions :
        (planAll fractions [(inward, none), joining "D" 9, joining "E" (-2)]).map
          (List.map Sibling.position) = .ok [-4, -5 / 2, -17 / 12, -1 / 3, 1] := by
      decide +kernel
    rw [hview] at hpositions
    exact ⟨view, hview, hascending, Except.ok.inj hpositions⟩

end Kanban
