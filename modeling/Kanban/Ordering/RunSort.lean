/-
Sorting by runs.  Neighbouring runs of a list are merged in an order that keeps
their sizes in balance.  Only "below" is ever asked, so elements that compare with
nothing are sorted too.  The main statement says that no element is lost.
-/
import Kanban.Ordering.Merging

namespace Kanban

universe u

variable {A : Type u}

namespace Runs

/-- A run that waits, with the depth at which the split between it and the run
behind it lies in a balanced halving of the list. -/
structure Waiting (A : Type u) where
  run : List A
  depth : Nat

/-- The first binary place in which two fractions of `size` differ. -/
def depthFrom : (fuel a b size : Nat) → Nat
  | 0, _, _, _ => 0
  | fuel + 1, a, b, size =>
      if size ≤ a then depthFrom fuel (2 * (a - size)) (2 * (b - size)) size + 1
      else if size ≤ b then 1
      else depthFrom fuel (2 * a) (2 * b) size + 1

/-- The depth of the split between two neighbouring runs, by their midpoints. -/
def depthOf (start left right size : Nat) : Nat :=
  depthFrom size (2 * start + left) (2 * start + left + (left + right)) size

/-- Merge a run with those that wait before it while these lie deeper. -/
def collapse (lt : A → A → Bool) (depth : Nat) (limit : Nat) (top : List A) :
    List (Waiting A) → List A × List (Waiting A) × Nat
  | below :: rest =>
      if depth < below.depth then
        let (merged, limit) := merge lt limit below.run top
        collapse lt depth limit merged rest
      else (top, below :: rest, limit)
  | [] => (top, [], limit)

/-- Merge all runs that are left, of three neighbours the shorter outer one
with the middle one. -/
def mergeAll (lt : A → A → Bool) (limit : Nat) (top below : List A) :
    List (Waiting A) → List A
  | third :: rest =>
      if third.run.length < top.length then
        let (merged, limit) := merge lt limit third.run below
        mergeAll lt limit top merged rest
      else
        let (merged, limit) := merge lt limit below top
        mergeAll lt limit merged third.run rest
  | [] => (merge lt limit below top).1

/-- The elements of runs that wait, in the order of the list. -/
def waitingElements : List (Waiting A) → List A
  | [] => []
  | below :: rest => waitingElements rest ++ below.run

/-- Merge the last run with all that wait before it. -/
def finish (lt : A → A → Bool) (limit : Nat) (top : List A) : List (Waiting A) → List A
  | below :: rest => mergeAll lt limit top below.run rest
  | [] => top

/-- Find the runs of a list one by one and merge them with those before. -/
def gather (lt : A → A → Bool) (size least : Nat) :
    (fuel limit : Nat) → (top : List A) → List (Waiting A) → List A → List A
  | fuel + 1, limit, top, waiting, x :: xs =>
      let (run, rest) := next lt least (x :: xs)
      let depth :=
        depthOf (waitingElements waiting).length top.length run.length size
      let (top, waiting, limit) := collapse lt depth limit top waiting
      gather lt size least fuel limit run (⟨top, depth⟩ :: waiting) rest
  | _, limit, top, waiting, xs => finish lt limit top waiting ++ xs

/-- Sort by runs. -/
def sort (lt : A → A → Bool) (xs : List A) : List A :=
  let least := leastLength xs.length xs.length 0
  let (run, rest) := next lt least xs
  gather lt xs.length least xs.length worthwhile run [] rest

theorem collapse_perm (lt : A → A → Bool) (depth limit : Nat) (top : List A)
    (waiting : List (Waiting A)) :
    (waitingElements (collapse lt depth limit top waiting).2.1 ++
      (collapse lt depth limit top waiting).1).Perm (waitingElements waiting ++ top) := by
  induction waiting generalizing limit top with
  | nil => exact List.Perm.refl _
  | cons below rest ih =>
      unfold collapse
      split
      · refine (ih _ _).trans ?_
        rw [waitingElements, List.append_assoc]
        exact List.Perm.append_left _ (merge_perm ..)
      · exact List.Perm.refl _

theorem mergeAll_perm (lt : A → A → Bool) (limit : Nat) (top below : List A)
    (waiting : List (Waiting A)) :
    (mergeAll lt limit top below waiting).Perm
      (waitingElements waiting ++ (below ++ top)) := by
  induction waiting generalizing limit top below with
  | nil => exact merge_perm ..
  | cons third rest ih =>
      unfold mergeAll
      rw [waitingElements, List.append_assoc]
      split
      · refine (ih ..).trans (List.Perm.append_left _ ?_)
        rw [← List.append_assoc]
        exact (merge_perm ..).append_right _
      · exact (ih ..).trans (List.Perm.append_left _ ((merge_perm ..).append_left _))

theorem finish_perm (lt : A → A → Bool) (limit : Nat) (top : List A)
    (waiting : List (Waiting A)) :
    (finish lt limit top waiting).Perm (waitingElements waiting ++ top) := by
  cases waiting with
  | nil => exact List.Perm.refl _
  | cons below rest =>
      rw [waitingElements, List.append_assoc]
      exact mergeAll_perm ..

theorem gather_perm (lt : A → A → Bool) (size least fuel limit : Nat) (top : List A)
    (waiting : List (Waiting A)) (xs : List A) :
    (gather lt size least fuel limit top waiting xs).Perm
      (waitingElements waiting ++ top ++ xs) := by
  fun_induction gather lt size least fuel limit top waiting xs with
  | case1 fuel limit top waiting x xs run rest hnext depth top' waiting' limit' hcollapse ih =>
      refine ih.trans ?_
      have hkept := collapse_perm lt depth limit top waiting
      have hxs := next_perm lt least (x :: xs)
      rw [hcollapse] at hkept
      rw [hnext] at hxs
      rw [waitingElements, List.append_assoc]
      exact hkept.append hxs
  | case2 => exact (finish_perm ..).append_right _

/-- Sorting by runs keeps the elements, whatever "below" means. -/
theorem sort_perm (lt : A → A → Bool) (xs : List A) : (sort lt xs).Perm xs := by
  unfold sort
  exact (gather_perm ..).trans (next_perm ..)

end Runs

end Kanban
