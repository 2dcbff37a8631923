/-
Stable sorting by insertion.  The main statements say that sorting keeps the
elements and, under a transitive order that is total on them, leaves them in
order.
-/

namespace Kanban

universe u

variable {A : Type u}

/-- Insert before the first element that is not smaller. -/
def insertSorted (le : A → A → Bool) (x : A) : List A → List A
  | [] => [x]
  | y :: rest => if le x y then x :: y :: rest else y :: insertSorted le x rest

/-- Sort by repeated insertion; equal elements stay in the order given. -/
def sortBy (le : A → A → Bool) : List A → List A
  | [] => []
  | x :: rest => insertSorted le x (sortBy le rest)

theorem insertSorted_perm (le : A → A → Bool) (x : A) (xs : List A) :
    (insertSorted le x xs).Perm (x :: xs) := by
  induction xs with
  | nil => exact List.Perm.refl _
  | cons y rest ih =>
      by_cases hle : le x y = true
      · simp [insertSorted, hle]
      · simp only [insertSorted, hle]
        exact (ih.cons y).trans (List.Perm.swap x y rest)

theorem sortBy_perm (le : A → A → Bool) (xs : List A) : (sortBy le xs).Perm xs := by
  induction xs with
  | nil => exact List.Perm.refl _
  | cons x rest ih => exact (insertSorted_perm le x _).trans (ih.cons x)

theorem mem_sortBy {le : A → A → Bool} {x : A} {xs : List A} :
    x ∈ sortBy le xs ↔ x ∈ xs :=
  (sortBy_perm le xs).mem_iff

theorem pairwise_insertSorted {le : A → A → Bool} {x : A} {xs : List A}
    (htotal : ∀ y ∈ xs, le x y = true ∨ le y x = true)
    (htrans : ∀ a b c, le a b = true → le b c = true → le a c = true)
    (hxs : xs.Pairwise fun a b => le a b = true) :
    (insertSorted le x xs).Pairwise fun a b => le a b = true := by
  induction xs with
  | nil => simp [insertSorted]
  | cons y rest ih =>
      have hy := List.pairwise_cons.mp hxs
      by_cases hle : le x y = true
      · simp only [insertSorted, hle, ↓reduceIte, List.pairwise_cons, List.mem_cons]
        refine ⟨?_, hy⟩
        rintro z (rfl | hz)
        · exact hle
        · exact htrans x y z hle (hy.1 z hz)
      · simp only [insertSorted, hle, Bool.false_eq_true, ↓reduceIte, List.pairwise_cons]
        refine ⟨?_, ih (fun z hz => htotal z (List.mem_cons_of_mem y hz)) hy.2⟩
        intro z hz
        rcases List.mem_cons.mp ((insertSorted_perm le x rest).mem_iff.mp hz) with rfl | hz
        · exact (htotal y List.mem_cons_self).resolve_left hle
        · exact hy.1 z hz

theorem pairwise_sortBy {le : A → A → Bool} {xs : List A}
    (htotal : ∀ a ∈ xs, ∀ b ∈ xs, le a b = true ∨ le b a = true)
    (htrans : ∀ a b c, le a b = true → le b c = true → le a c = true) :
    (sortBy le xs).Pairwise fun a b => le a b = true := by
  induction xs with
  | nil => exact List.Pairwise.nil
  | cons x rest ih =>
      refine pairwise_insertSorted ?_ htrans (ih ?_)
      · intro y hy
        exact htotal x List.mem_cons_self y (List.mem_cons_of_mem x (mem_sortBy.mp hy))
      · intro a ha b hb
        exact htotal a (List.mem_cons_of_mem x ha) b (List.mem_cons_of_mem x hb)

theorem insertSorted_of_le {le : A → A → Bool} {x : A} {xs : List A}
    (hle : ∀ y ∈ xs, le x y = true) : insertSorted le x xs = x :: xs := by
  cases xs with
  | nil => rfl
  | cons y rest => rw [insertSorted, if_pos (hle y List.mem_cons_self)]

/-- What is in order stays as it is. -/
theorem sortBy_of_pairwise {le : A → A → Bool} {xs : List A}
    (hordered : xs.Pairwise fun a b => le a b = true) : sortBy le xs = xs := by
  induction xs with
  | nil => rfl
  | cons x rest ih =>
      obtain ⟨hfirst, hrest⟩ := List.pairwise_cons.mp hordered
      rw [sortBy, ih hrest, insertSorted_of_le hfirst]

end Kanban
