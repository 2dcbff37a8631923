/-
The canonical order.  Among siblings whose positions are numbers it is total, and
siblings that stand on each other's level share their id.  Sorting therefore has
one result for all arrangements of the same siblings: any list of them that is in
order is the sorted one.
-/
import Mathlib.Data.List.Basic
import Kanban.Ordering.Sibling
import Kanban.Proofs.Binary64.Order

namespace Kanban

namespace Sibling

theorem le_iff {a b : Sibling Binary64} {low high : Int} (ha : a.position.rank = some low)
    (hb : b.position.rank = some high) :
    a.le b = true ↔
      low < high ∨ (low = high ∧ (a.seq < b.seq ∨ (a.seq = b.seq ∧ a.id ≤ b.id))) := by
  simp [Sibling.le, Binary64.lt_of_rank ha hb, Binary64.same_of_rank ha hb]

theorem exists_rank_of_le {a b : Sibling Binary64} (hle : a.le b = true) :
    ∃ low high, a.position.rank = some low ∧ b.position.rank = some high := by
  simp only [Sibling.le, Binary64.lt, Binary64.same] at hle
  cases ha : a.position.rank <;> cases hb : b.position.rank <;> simp [ha, hb] at hle ⊢

theorem le_trans {a b c : Sibling Binary64} (hab : a.le b = true) (hbc : b.le c = true) :
    a.le c = true := by
  obtain ⟨p, q, hp, hq⟩ := exists_rank_of_le hab
  obtain ⟨q', r, hq', hr⟩ := exists_rank_of_le hbc
  rw [hq] at hq'
  obtain rfl := Option.some.inj hq'
  rw [le_iff hp hq] at hab
  rw [le_iff hq hr] at hbc
  rw [le_iff hp hr]
  rcases hab with hpq | ⟨hpq, hab⟩
  · left
    omega
  · rcases hbc with hqr | ⟨hqr, hbc⟩
    · left
      omega
    · right
      refine ⟨by omega, ?_⟩
      rcases hab with hab | ⟨hab, hidab⟩ <;> rcases hbc with hbc | ⟨hbc, hidbc⟩
      · left; omega
      · left; omega
      · left; omega
      · exact Or.inr ⟨by omega, String.le_trans hidab hidbc⟩

theorem le_total {a b : Sibling Binary64} (ha : a.position ≠ .nan) (hb : b.position ≠ .nan) :
    a.le b = true ∨ b.le a = true := by
  obtain ⟨p, hp⟩ := Binary64.exists_rank ha
  obtain ⟨q, hq⟩ := Binary64.exists_rank hb
  rw [le_iff hp hq, le_iff hq hp]
  have hid := String.le_total a.id b.id
  by_cases hplace : p = q
  · by_cases hseq : a.seq = b.seq
    · rcases hid with hid | hid
      · exact Or.inl (Or.inr ⟨hplace, Or.inr ⟨hseq, hid⟩⟩)
      · exact Or.inr (Or.inr ⟨hplace.symm, Or.inr ⟨hseq.symm, hid⟩⟩)
    · omega
  · omega

theorem id_eq_of_le_of_le {a b : Sibling Binary64} (hab : a.le b = true)
    (hba : b.le a = true) : a.id = b.id := by
  obtain ⟨p, q, hp, hq⟩ := exists_rank_of_le hab
  rw [le_iff hp hq] at hab
  rw [le_iff hq hp] at hba
  rcases hab with hab | ⟨hpq, hab | ⟨hseq, hab⟩⟩
  · omega
  · omega
  · rcases hba with hba | ⟨-, hba | ⟨-, hba⟩⟩
    · omega
    · omega
    · exact String.le_antisymm hab hba

theorem lt_iff {a b : Sibling Binary64} {low high : Int} (ha : a.position.rank = some low)
    (hb : b.position.rank = some high) :
    a.lt b = true ↔
      low < high ∨ (low = high ∧ (a.seq < b.seq ∨ (a.seq = b.seq ∧ a.id < b.id))) := by
  rw [Sibling.lt, Binary64.same_of_rank ha hb, Binary64.lt_of_rank ha hb]
  by_cases hplace : low = high <;> simp [hplace]

/-- Siblings of different ids are never on one level. -/
theorem lt_of_le_of_id_ne {a b : Sibling Binary64} (hle : a.le b = true) (hid : a.id ≠ b.id) :
    a.lt b = true := by
  obtain ⟨low, high, hlow, hhigh⟩ := exists_rank_of_le hle
  rw [le_iff hlow hhigh] at hle
  rw [lt_iff hlow hhigh]
  rcases hle with hplace | ⟨hplace, hseq | ⟨hseq, hle⟩⟩
  · exact Or.inl hplace
  · exact Or.inr ⟨hplace, Or.inl hseq⟩
  · refine Or.inr ⟨hplace, Or.inr ⟨hseq, ?_⟩⟩
    by_contra hnot
    exact hid (String.le_antisymm hle (String.not_lt.mp hnot))

theorem le_of_lt {a b : Sibling Binary64} (hlt : a.position.lt b.position = true) :
    a.le b = true := by
  simp [Sibling.le, hlt]

end Sibling

section

variable {A : Type} {sibling : A → Sibling Binary64} {xs ys : List A}

theorem pairwise_orderBy (hnumbers : ∀ x ∈ xs, (sibling x).position ≠ .nan) :
    (orderBy sibling xs).Pairwise fun a b => (sibling a).le (sibling b) = true := by
  have hall : xs.all (fun x => decide ((sibling x).position ≠ .nan)) = true := by
    simpa using hnumbers
  unfold orderBy
  rw [if_pos hall]
  apply pairwise_sortBy
  · intro a ha b hb
    exact Sibling.le_total (hnumbers a ha) (hnumbers b hb)
  · intro a b c hab hbc
    exact Sibling.le_trans hab hbc

/-- Sorting leaves a list that is in canonical order as it is. -/
theorem orderBy_of_pairwise
    (hordered : xs.Pairwise fun a b => (sibling a).le (sibling b) = true)
    (hnumbers : ∀ x ∈ xs, (sibling x).position ≠ .nan) : orderBy sibling xs = xs := by
  unfold orderBy
  rw [if_pos (by simpa using hnumbers)]
  exact sortBy_of_pairwise hordered

/-- A list in canonical order is what sorting makes of every arrangement of
it. -/
theorem orderBy_eq_of_perm (hperm : ys.Perm xs)
    (hnumbers : ∀ x ∈ xs, (sibling x).position ≠ .nan)
    (hids : ∀ a ∈ xs, ∀ b ∈ xs, (sibling a).id = (sibling b).id → a = b)
    (hordered : ys.Pairwise fun a b => (sibling a).le (sibling b) = true) :
    orderBy sibling xs = ys := by
  refine List.Perm.eq_of_pairwise ?_ (pairwise_orderBy hnumbers) hordered
    ((orderBy_perm sibling xs).trans hperm.symm)
  intro a b ha hb hab hba
  exact hids a (mem_orderBy.mp ha) b (hperm.mem_iff.mp hb) (Sibling.id_eq_of_le_of_le hab hba)

/-- Sorting again changes nothing. -/
theorem orderBy_orderBy (hnumbers : ∀ x ∈ xs, (sibling x).position ≠ .nan) :
    orderBy sibling (orderBy sibling xs) = orderBy sibling xs :=
  orderBy_of_pairwise (pairwise_orderBy hnumbers) fun x hx => hnumbers x (mem_orderBy.mp hx)

/-- Every arrangement of the same things is sorted alike. -/
theorem orderBy_congr (hperm : ys.Perm xs)
    (hnumbers : ∀ x ∈ xs, (sibling x).position ≠ .nan)
    (hids : ∀ a ∈ xs, ∀ b ∈ xs, (sibling a).id = (sibling b).id → a = b) :
    orderBy sibling ys = orderBy sibling xs := by
  apply orderBy_eq_of_perm ((orderBy_perm sibling xs).trans hperm.symm) _ _
    (pairwise_orderBy hnumbers)
  · exact fun y hy => hnumbers y (hperm.mem_iff.mp hy)
  · exact fun a ha b hb => hids a (hperm.mem_iff.mp ha) b (hperm.mem_iff.mp hb)

/-- Where ids are distinct, the order is strict. -/
theorem pairwise_lt_orderBy (hnumbers : ∀ x ∈ xs, (sibling x).position ≠ .nan)
    (hids : (xs.map fun x => (sibling x).id).Nodup) :
    (orderBy sibling xs).Pairwise fun a b => (sibling a).lt (sibling b) = true := by
  have hordered : ((orderBy sibling xs).map fun x => (sibling x).id).Nodup :=
    ((orderBy_perm sibling xs).map _).nodup_iff.mpr hids
  exact (pairwise_orderBy hnumbers).imp₂ (fun _ _ hle hid => Sibling.lt_of_le_of_id_ne hle hid)
    (List.pairwise_map.mp hordered)

end

end Kanban
