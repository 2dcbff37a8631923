/-
Gaps and renumbering.  A view whose gaps reach a positive threshold is strictly
increasing, and renumbering gives every entry its index, so either way a planned
view is in canonical order.
-/
import Mathlib.Data.List.Basic
import Kanban.Ordering.Renormalize
import Kanban.Proofs.Ordering.Canonical

namespace Kanban

open Binary64

/-- If the least of a list is not below a threshold, no element is. -/
theorem not_lt_of_foldl_least {threshold : Binary64} {gap : Binary64} {rest : List Binary64}
    (hgap : gap ≠ .nan) (hrest : ∀ other ∈ rest, other ≠ .nan)
    (hleast : (rest.foldl (fun least other => if other.lt least then other else least)
      gap).lt threshold = false) :
    gap.lt threshold = false ∧ ∀ other ∈ rest, other.lt threshold = false := by
  induction rest generalizing gap with
  | nil => exact ⟨hleast, by simp⟩
  | cons other rest ih =>
      simp only [List.mem_cons, forall_eq_or_imp] at hrest ⊢
      obtain ⟨hother, hrest⟩ := hrest
      rw [List.foldl_cons] at hleast
      by_cases hlower : other.lt gap = true
      · rw [if_pos hlower] at hleast
        obtain ⟨hfound, hall⟩ := ih hother hrest hleast
        refine ⟨?_, hfound, hall⟩
        -- A gap below the threshold would put the lower one below it as well.
        by_contra hbelow
        rw [lt_trans hlower (by simpa using hbelow)] at hfound
        cases hfound
      · rw [if_neg hlower] at hleast
        obtain ⟨hfound, hall⟩ := ih hgap hrest hleast
        refine ⟨hfound, ?_, hall⟩
        obtain ⟨low, hlow⟩ := exists_rank hgap
        obtain ⟨high, hhigh⟩ := exists_rank hother
        rw [lt_of_rank hhigh hlow, decide_eq_true_eq] at hlower
        by_contra hbelow
        obtain ⟨place, top, hplace, htop, hlt⟩ := lt_iff.mp (by simpa using hbelow)
        rw [hhigh] at hplace
        obtain rfl := Option.some.inj hplace
        rw [lt_of_rank hlow htop, decide_eq_false_iff_not] at hfound
        omega

theorem mem_of_foldl_least (gap : Binary64) (rest : List Binary64) :
    rest.foldl (fun least other => if other.lt least then other else least) gap ∈
      gap :: rest := by
  induction rest generalizing gap with
  | nil => exact List.mem_singleton_self gap
  | cons other rest ih =>
      rw [List.foldl_cons]
      split
      · exact List.mem_cons_of_mem gap (ih other)
      · rcases List.mem_cons.mp (ih gap) with hgap | hrest
        · exact List.mem_cons.mpr (Or.inl hgap)
        · exact List.mem_cons_of_mem gap (List.mem_cons_of_mem other hrest)

theorem mem_of_leastOf {least : Binary64} {values : List Binary64}
    (hleast : leastOf values = some least) : least ∈ values := by
  cases values with
  | nil => cases hleast
  | cons gap rest =>
      obtain rfl := Option.some.inj hleast
      exact mem_of_foldl_least gap rest

variable {view : List (Sibling Binary64)} {threshold : Binary64}

theorem gaps_cons_cons (a b : Sibling Binary64) (rest : List (Sibling Binary64)) :
    gaps (a :: b :: rest) = b.position.sub a.position :: gaps (b :: rest) :=
  rfl

theorem needsRenormalization_iff : needsRenormalization view threshold = true ↔
    ∃ gap, minGap view = some gap ∧ gap.lt threshold = true := by
  unfold needsRenormalization
  cases minGap view <;> simp

/-- Positions are numbers, and of any two at least one is finite. -/
structure Measurable (view : List (Sibling Binary64)) : Prop where
  numbers : ∀ entry ∈ view, entry.position ≠ .nan
  finite : view.Pairwise fun a b => a.position.IsFinite ∨ b.position.IsFinite

theorem measurable_of_finite (hfinite : ∀ entry ∈ view, entry.position.IsFinite) :
    Measurable view :=
  ⟨fun entry hentry => (hfinite entry hentry).ne_nan,
    List.pairwise_of_forall_mem_list fun a ha _ _ => Or.inl (hfinite a ha)⟩

theorem Measurable.tail {a : Sibling Binary64} (hview : Measurable (a :: view)) :
    Measurable view :=
  ⟨fun entry hentry => hview.numbers entry (List.mem_cons_of_mem a hentry),
    (List.pairwise_cons.mp hview.finite).2⟩

theorem Measurable.gaps_ne_nan (hview : Measurable view) : ∀ gap ∈ gaps view, gap ≠ .nan := by
  induction view with
  | nil => simp [gaps]
  | cons a rest ih =>
      cases rest with
      | nil => simp [gaps]
      | cons b rest =>
          rw [gaps_cons_cons]
          have hnear := (List.pairwise_cons.mp hview.finite).1 b List.mem_cons_self
          have ha := hview.numbers a List.mem_cons_self
          have hb := hview.numbers b (List.mem_cons_of_mem a List.mem_cons_self)
          rintro gap (_ | ⟨_, hgap⟩)
          · exact sub_ne_nan ha hb hnear
          · exact ih hview.tail gap hgap

/-- Without a call for renumbering no gap is below the threshold. -/
theorem Measurable.gaps_not_lt (hview : Measurable view)
    (hwide : needsRenormalization view threshold = false) :
    ∀ gap ∈ gaps view, gap.lt threshold = false := by
  have hnumbers := hview.gaps_ne_nan
  unfold needsRenormalization minGap leastOf at hwide
  cases hgaps : gaps view with
  | nil => simp
  | cons gap rest =>
      rw [hgaps] at hwide hnumbers
      obtain ⟨hgap, hrest⟩ := not_lt_of_foldl_least (hnumbers gap List.mem_cons_self)
        (fun other hother => hnumbers other (List.mem_cons_of_mem gap hother)) hwide
      rintro other (_ | ⟨_, hother⟩)
      · exact hgap
      · exact hrest other hother

theorem Measurable.pairwise_of_gaps (hview : Measurable view)
    (hthreshold : (zero false).lt threshold = true)
    (hgaps : ∀ gap ∈ gaps view, gap.lt threshold = false) :
    view.Pairwise fun a b => a.position.lt b.position = true := by
  induction view with
  | nil => exact List.Pairwise.nil
  | cons a rest ih =>
      cases rest with
      | nil => simp
      | cons b rest =>
          rw [gaps_cons_cons] at hgaps
          have hrest := ih hview.tail fun gap hgap => hgaps gap (List.mem_cons_of_mem _ hgap)
          have hnear := (List.pairwise_cons.mp hview.finite).1 b List.mem_cons_self
          have hab : a.position.lt b.position = true :=
            lt_of_not_sub_lt (hview.numbers a List.mem_cons_self)
              (hview.numbers b (List.mem_cons_of_mem a List.mem_cons_self)) hnear
              hthreshold (hgaps _ List.mem_cons_self)
          refine List.pairwise_cons.mpr ⟨?_, hrest⟩
          rintro c (_ | ⟨_, hc⟩)
          · exact hab
          · exact lt_trans hab ((List.pairwise_cons.mp hrest).1 c hc)

/-- A view that needs no renumbering is strictly increasing. -/
theorem Measurable.pairwise_lt (hview : Measurable view)
    (hthreshold : (zero false).lt threshold = true)
    (hwide : needsRenormalization view threshold = false) :
    view.Pairwise fun a b => a.position.lt b.position = true :=
  hview.pairwise_of_gaps hthreshold (hview.gaps_not_lt hwide)

/-- An entry that no view of a renumbering holds gets no new position. -/
theorem get?_renormalizeFrom_of_not_mem {id : String} (hid : id ∉ view.map Sibling.id)
    (index : Nat) (updates : Mapping Binary64) :
    Mapping.get? id (renormalizeFrom index view updates) = Mapping.get? id updates := by
  induction view generalizing index updates with
  | nil => rfl
  | cons entry rest ih =>
      simp only [List.map_cons, List.mem_cons, not_or] at hid
      rw [renormalizeFrom, ih hid.2]
      split
      · rfl
      · exact Mapping.get?_set_of_ne hid.1 _ _

/-- The position of an entry after a renumbering. -/
theorem get?_renormalizeFrom (hids : (view.map Sibling.id).Nodup) (index : Nat)
    {updates : Mapping Binary64} (hnew : ∀ entry ∈ view, Mapping.get? entry.id updates = none)
    {place : Nat} {entry : Sibling Binary64} (hentry : view[place]? = some entry) :
    Mapping.get? entry.id (renormalizeFrom index view updates) =
      if entry.position.same (ofInt (index + place : Nat)) then none
      else some (ofInt (index + place : Nat)) := by
  induction view generalizing index updates place with
  | nil => simp at hentry
  | cons first rest ih =>
      simp only [List.map_cons, List.nodup_cons, List.mem_map, not_exists, not_and] at hids
      cases place with
      | zero =>
          obtain rfl : first = entry := by simpa using hentry
          have hlater : first.id ∉ rest.map Sibling.id := by
            simpa [List.mem_map] using hids.1
          have hnone := hnew first List.mem_cons_self
          rw [renormalizeFrom, get?_renormalizeFrom_of_not_mem hlater, Nat.add_zero]
          split
          · exact hnone
          · exact Mapping.get?_set_self _ _ _
      | succ place =>
          rw [renormalizeFrom, ih hids.2 (index + 1) ?_ (by simpa using hentry)]
          · rw [Nat.add_assoc, Nat.add_comm 1]
          · intro other hother
            have hne : other.id ≠ first.id := hids.1 other hother
            have hnone := hnew other (List.mem_cons_of_mem first hother)
            split
            · exact hnone
            · rw [Mapping.get?_set_of_ne hne, hnone]

theorem get?_renormalize (hids : (view.map Sibling.id).Nodup) {place : Nat}
    {entry : Sibling Binary64} (hentry : view[place]? = some entry) :
    Mapping.get? entry.id (renormalize view) =
      if entry.position.same (ofInt (place + 1 : Nat)) then none
      else some (ofInt (place + 1 : Nat)) := by
  rw [Nat.add_comm place]
  exact get?_renormalizeFrom hids 1 (fun _ _ => rfl) hentry

theorem keys_renormalizeFrom_subset (index : Nat) (updates : Mapping Binary64) :
    ∀ id ∈ (renormalizeFrom index view updates).keys,
      id ∈ updates.keys ∨ id ∈ view.map Sibling.id := by
  induction view generalizing index updates with
  | nil => exact fun id hid => Or.inl hid
  | cons entry rest ih =>
      intro id hid
      rw [List.map_cons, List.mem_cons]
      rcases ih _ _ id hid with hold | hrest
      · split at hold
        · exact Or.inl hold
        · rw [Mapping.keys_set] at hold
          split at hold
          · exact Or.inl hold
          · rcases List.mem_append.mp hold with hold | hentry
            · exact Or.inl hold
            · exact Or.inr (Or.inl (by simpa using hentry))
      · exact Or.inr (Or.inr hrest)

theorem keys_renormalize_subset :
    ∀ id ∈ (renormalize view).keys, id ∈ view.map Sibling.id := by
  intro id hid
  exact (keys_renormalizeFrom_subset 1 [] id hid).resolve_left (by simp [Mapping.keys])

/-- A renumbered entry stands at its index, counted from one. -/
theorem position_renormalize (hids : (view.map Sibling.id).Nodup) {place : Nat}
    {entry : Sibling Binary64} (hentry : view[place]? = some entry) :
    (Mapping.get? entry.id (renormalize view)).getD entry.position =
      ofInt (place + 1 : Nat) := by
  rw [get?_renormalize hids hentry]
  split
  · rename_i hsame
    exact eq_of_same hsame (rank_ofInt_ne_zero (Nat.succ_pos place))
  · exact Option.getD_some

end Kanban
