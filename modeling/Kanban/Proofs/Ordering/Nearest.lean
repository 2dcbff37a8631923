/-
The nearest entries.  In canonical order a difference of positions does not shrink when its
terms move apart.  So the least gap of a view is the least difference of any two entries, and
adjacent gaps show whether some two are nearer than a threshold.
-/
import Kanban.Proofs.Ordering.Spacing

namespace Kanban

open Binary64

/-- The least difference of positions over all pairs, adjacent or not: one entry stands so far
ahead of another, and none stands nearer.  Differences are taken as the gaps are, rounded. -/
structure LeastDistance (view : List (Sibling Binary64)) (least : Binary64) : Prop where
  attained : ∃ a b, [a, b].Sublist view ∧ b.position.sub a.position = least
  spaced : Spaced least view

/-- Some entry stands nearer than a threshold ahead of another, adjacent or not. -/
def Crowded (threshold : Binary64) (view : List (Sibling Binary64)) : Prop :=
  ∃ a b, [a, b].Sublist view ∧ (b.position.sub a.position).lt threshold = true

theorem le_of_leastOf {least : Binary64} {values : List Binary64}
    (hnumbers : ∀ value ∈ values, value ≠ .nan) (hleast : leastOf values = some least) :
    ∀ value ∈ values, least.le value = true := by
  have hnumber := hnumbers least (mem_of_leastOf hleast)
  cases values with
  | nil => cases hleast
  | cons first rest =>
      obtain rfl := Option.some.inj hleast
      obtain ⟨hfirst, hrest⟩ := List.forall_mem_cons.mp hnumbers
      -- The least is not below itself, so nothing in the list is.
      obtain ⟨habove, hall⟩ := not_lt_of_foldl_least hfirst hrest (not_lt_of_le (le_self hnumber))
      rintro value (_ | ⟨_, hvalue⟩)
      · exact le_of_not_lt hnumber hfirst habove
      · exact le_of_not_lt hnumber (hrest value hvalue) (hall value hvalue)

theorem Sibling.position_le {a b : Sibling Binary64} (hle : a.le b = true) :
    a.position.le b.position = true := by
  obtain ⟨low, high, hlow, hhigh⟩ := Sibling.exists_rank_of_le hle
  rw [Sibling.le_iff hlow hhigh] at hle
  exact le_of_rank hlow hhigh (by omega)

variable {view : List (Sibling Binary64)} {least : Binary64}

/-- A gap is the difference of two entries. -/
theorem exists_pair_of_mem_gaps {gap : Binary64} (hgap : gap ∈ gaps view) :
    ∃ a b, [a, b].Sublist view ∧ b.position.sub a.position = gap := by
  induction view with
  | nil => simp [gaps] at hgap
  | cons a rest ih =>
      cases rest with
      | nil => simp [gaps] at hgap
      | cons b rest =>
          rw [gaps_cons_cons, List.mem_cons] at hgap
          rcases hgap with rfl | hlater
          · exact ⟨a, b, (List.nil_sublist rest).cons_cons b |>.cons_cons a, rfl⟩
          · obtain ⟨first, second, hpair, hdifference⟩ := ih hlater
            exact ⟨first, second, hpair.cons a, hdifference⟩

theorem exists_minGap (htwo : 2 ≤ view.length) : ∃ gap, minGap view = some gap := by
  rcases view with _ | ⟨a, _ | ⟨b, rest⟩⟩
  · simp at htwo
  · simp at htwo
  · exact ⟨_, rfl⟩

/-- In canonical order no two entries are nearer than the nearest neighbours. -/
theorem leastDistance_of_minGap (hordered : view.Pairwise fun a b => a.le b = true)
    (hfinite : ∀ entry ∈ view, entry.position.IsFinite) (hgap : minGap view = some least) :
    LeastDistance view least where
  attained := exists_pair_of_mem_gaps (mem_of_leastOf hgap)
  spaced := by
    have hpositions := hordered.imp fun hle => Sibling.position_le hle
    have hnumbers := (measurable_of_finite hfinite).gaps_ne_nan
    exact spaced_of_ordered hfinite hpositions (le_of_leastOf hnumbers hgap)

/-- In a view of finite positions in canonical order the least gap is the least difference of
any two entries, and there is one as soon as there are two entries.  The view needs
renumbering exactly if some two entries, adjacent or not, are nearer than the threshold. -/
theorem least_distance (view : List (Sibling Binary64))
    (hordered : view.Pairwise fun a b => a.le b = true)
    (hfinite : ∀ entry ∈ view, entry.position.IsFinite) :
    (2 ≤ view.length → ∃ gap, minGap view = some gap ∧ LeastDistance view gap) ∧
    ∀ threshold, needsRenormalization view threshold = true ↔ Crowded threshold view := by
  have hdistance {gap : Binary64} (hgap : minGap view = some gap) : LeastDistance view gap :=
    leastDistance_of_minGap hordered hfinite hgap
  constructor
  · intro htwo
    obtain ⟨gap, hgap⟩ := exists_minGap htwo
    exact ⟨gap, hgap, hdistance hgap⟩
  · intro threshold
    rw [needsRenormalization_iff]
    constructor
    · rintro ⟨gap, hgap, hbelow⟩
      obtain ⟨a, b, hpair, rfl⟩ := (hdistance hgap).attained
      exact ⟨a, b, hpair, hbelow⟩
    · rintro ⟨a, b, hpair, hnear⟩
      obtain ⟨gap, hgap⟩ := exists_minGap hpair.length_le
      have hle : gap.le (b.position.sub a.position) = true :=
        List.pairwise_iff_forall_sublist.mp (hdistance hgap).spaced hpair
      exact ⟨gap, hgap, lt_of_le_of_lt hle hnear⟩

/-- Four entries, one below zero and two that stand on zeros of either sign. -/
def aroundZero : List (Sibling Binary64) :=
  [⟨"C", ofInt (-3), "l", 4⟩, ⟨"A", zero false, "l", 1⟩, ⟨"B", zero true, "l", 2⟩,
    ⟨"D", ofInt 1, "l", 3⟩]

/-- The entries on zero are nearest, at no distance, which only thresholds above zero notice. -/
theorem least_distance_aroundZero :
    (∃ gap, minGap aroundZero = some gap ∧ LeastDistance aroundZero gap ∧ gap = zero true) ∧
    (needsRenormalization aroundZero defaultThreshold = true ∧
      Crowded defaultThreshold aroundZero) ∧
    ¬ Crowded (zero false) aroundZero := by
  obtain ⟨hleast, hneeds⟩ := least_distance aroundZero (by decide +kernel) (by decide +kernel)
  obtain ⟨gap, hgap, hdistance⟩ := hleast (by decide)
  have hvalue : minGap aroundZero = some (zero true) := by decide +kernel
  have hnear : needsRenormalization aroundZero defaultThreshold = true := by decide +kernel
  have hwide : needsRenormalization aroundZero (zero false) = false := by decide +kernel
  refine ⟨⟨gap, hgap, hdistance, ?_⟩, ⟨hnear, (hneeds _).mp hnear⟩, fun hcrowded => ?_⟩
  · exact Option.some.inj (hgap.symm.trans hvalue)
  · rw [(hneeds _).mpr hcrowded] at hwide
    cases hwide

end Kanban
