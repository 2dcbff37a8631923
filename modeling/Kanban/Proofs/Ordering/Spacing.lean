/-
Spaced views.  If adjacent entries stand some positive distance apart, any two
entries do, so a view stays spaced when entries leave it.  A renumbered view and a
place past the end keep a distance of one.
-/
import Kanban.Proofs.Binary64.Difference
import Kanban.Proofs.Ordering.Slots

namespace Kanban

open Binary64

/-- Any two entries of a view stand at least a distance apart, in order. -/
def Spaced (least : Binary64) (view : List (Sibling Binary64)) : Prop :=
  view.Pairwise fun a b => least.le (b.position.sub a.position) = true

variable {view : List (Sibling Binary64)} {least threshold position : Binary64}

theorem spaced_iff_positions : Spaced least view ↔
    (view.map Sibling.position).Pairwise fun x y => least.le (y.sub x) = true := by
  rw [List.pairwise_map]
  rfl

theorem Spaced.le_gaps (hspaced : Spaced least view) : ∀ gap ∈ gaps view, least.le gap = true := by
  induction view with
  | nil => simp [gaps]
  | cons a rest ih =>
      obtain ⟨hfirst, hrest⟩ := List.pairwise_cons.mp hspaced
      cases rest with
      | nil => simp [gaps]
      | cons b rest =>
          rw [gaps_cons_cons]
          rintro gap (_ | ⟨_, hgap⟩)
          · exact hfirst b List.mem_cons_self
          · exact ih hrest gap hgap

theorem Spaced.pairwise_lt (hspaced : Spaced least view)
    (hfinite : ∀ entry ∈ view, entry.position.IsFinite)
    (hleast : (zero false).lt least = true) :
    view.Pairwise fun a b => a.position.lt b.position = true :=
  hspaced.imp_of_mem fun ha hb hgap => lt_of_le_sub (hfinite _ ha) (hfinite _ hb) hleast hgap

theorem Spaced.mono {smaller : Binary64} (hspaced : Spaced least view)
    (hle : smaller.le least = true) : Spaced smaller view :=
  hspaced.imp fun hgap => le_trans hle hgap

/-- Adjacent gaps suffice where positions do not fall: an entry further behind is no
nearer. -/
theorem spaced_of_ordered (hfinite : ∀ entry ∈ view, entry.position.IsFinite)
    (hordered : view.Pairwise fun a b => a.position.le b.position = true)
    (hgaps : ∀ gap ∈ gaps view, least.le gap = true) : Spaced least view := by
  induction view with
  | nil => exact List.Pairwise.nil
  | cons a rest ih =>
      cases rest with
      | nil => exact List.pairwise_singleton _ a
      | cons b rest =>
          rw [gaps_cons_cons] at hgaps
          have htail : ∀ entry ∈ b :: rest, entry.position.IsFinite :=
            fun entry hentry => hfinite entry (List.mem_cons_of_mem a hentry)
          have hlater := (List.pairwise_cons.mp hordered).2
          have hspaced : Spaced least (b :: rest) :=
            ih htail hlater fun gap hgap => hgaps gap (List.mem_cons_of_mem _ hgap)
          have hnear := hgaps _ List.mem_cons_self
          refine List.pairwise_cons.mpr ⟨?_, hspaced⟩
          rintro c (_ | ⟨_, hc⟩)
          · exact hnear
          · have ha := hfinite a List.mem_cons_self
            have hb := htail b List.mem_cons_self
            have hbehind := htail c (List.mem_cons_of_mem b hc)
            have hpast := (List.pairwise_cons.mp hlater).1 c hc
            exact le_trans hnear (sub_mono ha hb ha hbehind (le_self ha.ne_nan) hpast)

/-- Gaps of at least some positive distance put the positions in order. -/
theorem spaced_of_gaps (hfinite : ∀ entry ∈ view, entry.position.IsFinite)
    (hleast : (zero false).lt least = true) (hgaps : ∀ gap ∈ gaps view, least.le gap = true) :
    Spaced least view := by
  have hincreasing := (measurable_of_finite hfinite).pairwise_of_gaps hleast
    fun gap hgap => not_lt_of_le (hgaps gap hgap)
  exact spaced_of_ordered hfinite (hincreasing.imp le_of_lt) hgaps

/-- A view that needs no renumbering is spaced by the threshold. -/
theorem spaced_of_wide (hfinite : ∀ entry ∈ view, entry.position.IsFinite)
    (hthreshold : (zero false).lt threshold = true)
    (hwide : needsRenormalization view threshold = false) : Spaced threshold view := by
  have hmeasurable := measurable_of_finite hfinite
  refine spaced_of_gaps hfinite hthreshold fun gap hgap => ?_
  exact le_of_not_lt (ne_nan_of_lt hthreshold).2 (hmeasurable.gaps_ne_nan gap hgap)
    (hmeasurable.gaps_not_lt hwide gap hgap)

/-- A spaced view needs no renumbering at any threshold up to its distance. -/
theorem Spaced.not_needsRenormalization (hspaced : Spaced least view)
    (hthreshold : threshold.le least = true) : needsRenormalization view threshold = false := by
  unfold needsRenormalization minGap
  cases hleast : leastOf (gaps view) with
  | none => rfl
  | some gap =>
      exact not_lt_of_le (le_trans hthreshold (hspaced.le_gaps gap (mem_of_leastOf hleast)))

/-- Entries that stand at their indices, counted from one, are one apart. -/
theorem spaced_of_indices (hmoderate : ∀ entry ∈ view, entry.position.IsModerate)
    (hindices : ∀ place entry, view[place]? = some entry →
      entry.position = ofInt (place + 1 : Nat)) : Spaced (ofInt 1) view := by
  refine List.pairwise_iff_getElem.mpr fun low high hlow hhigh hlt => ?_
  have hrank (place : Nat) (hplace : place < view.length) :
      view[place].position.rank = some (((place + 1 : Nat) : Int) * scale) := by
    have hmem := hmoderate _ (List.getElem_mem hplace)
    rw [hindices place _ (List.getElem?_eq_getElem hplace)] at hmem ⊢
    exact hmem.rank_ofInt
  refine one_le_sub (hmoderate _ (List.getElem_mem hlow)).isFinite
    (hmoderate _ (List.getElem_mem hhigh)).isFinite (hrank low hlow) (hrank high hhigh) ?_
  have hstep : ((low + 1 + 1 : Nat) : Int) * scale ≤ ((high + 1 : Nat) : Int) * scale :=
    Int.mul_le_mul_of_nonneg_right (by omega) (Int.natCast_nonneg _)
  rw [Int.natCast_add (low + 1), Int.add_mul] at hstep
  omega

/-- In an ordered view no entry stands past the last. -/
theorem exists_rank_le_last {last entry : Sibling Binary64} {top : Int}
    (hordered : view.Pairwise fun a b => a.le b = true) (hlast : view.getLast? = some last)
    (htop : last.position.rank = some top) (hentry : entry ∈ view) :
    ∃ low, entry.position.rank = some low ∧ low ≤ top := by
  obtain ⟨before, rfl⟩ := List.getLast?_eq_some_iff.mp hlast
  rcases List.mem_append.mp hentry with hbefore | hsame
  · have hle := (List.pairwise_append.mp hordered).2.2 entry hbefore last
      (List.mem_singleton_self last)
    obtain ⟨low, high, hlow, -⟩ := Sibling.exists_rank_of_le hle
    rw [Sibling.le_iff hlow htop] at hle
    exact ⟨low, hlow, by omega⟩
  · obtain rfl := List.mem_singleton.mp hsame
    exact ⟨top, htop, Int.le_refl top⟩

theorem after_eq_ok {x : Binary64} (hafter : Coordinate.after x = .ok position) :
    ∃ whole, x.ceil = .ok whole ∧ ofInt (whole + 1) = position := by
  change x.ceil.map (fun whole => ofInt (whole + 1)) = .ok position at hafter
  cases hceil : x.ceil with
  | error cause =>
      rw [hceil] at hafter
      cases hafter
  | ok whole =>
      rw [hceil] at hafter
      exact ⟨whole, rfl, Except.ok.inj hafter⟩

/-- What joins a view past its end is at least one away from every entry. -/
theorem one_le_past_end (hfinite : ∀ entry ∈ view, entry.position.IsFinite)
    (hordered : view.Pairwise fun a b => a.le b = true)
    (hend : positionBetween view.getLast? none = .ok position) (hmoderate : position.IsModerate) :
    ∀ entry ∈ view, (ofInt 1).le (position.sub entry.position) = true := by
  intro entry hentry
  obtain ⟨last, hlast⟩ := Option.isSome_iff_exists.mp
    (List.getLast?_isSome.mpr (List.ne_nil_of_mem hentry))
  rw [hlast] at hend
  obtain ⟨whole, hceil, rfl⟩ := after_eq_ok hend
  obtain ⟨top, htop⟩ := exists_rank (hfinite last (List.mem_of_getLast? hlast)).ne_nan
  obtain ⟨low, hlow, hbelow⟩ := exists_rank_le_last hordered hlast htop hentry
  have habove := le_ceil htop hceil
  refine one_le_sub (hfinite entry hentry) hmoderate.isFinite hlow hmoderate.rank_ofInt ?_
  rw [Int.add_mul]
  omega

end Kanban
