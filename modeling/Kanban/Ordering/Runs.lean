/-
Runs: parts of a list that never fall.  The run in front of a list is found and,
if it is short, lengthened by insertion.  The main statement says that no element
is lost.
-/

namespace Kanban

universe u

variable {A : Type u}

namespace Runs

/-- The first place from `low` on whose element is not `before`, found by
halving the distance to `high`. -/
def bisect (before : A → Bool) (xs : List A) : (fuel low high : Nat) → Nat
  | 0, low, _ => low
  | fuel + 1, low, high =>
      if low < high then
        let middle := low + (high - low) / 2
        if xs[middle]?.any before then bisect before xs fuel (middle + 1) high
        else bisect before xs fuel low middle
      else low

/-- Put an element behind those of a run that it is not below. -/
def insertInto (lt : A → A → Bool) (run : List A) (x : A) : List A :=
  let place := bisect (fun y => !lt x y) run run.length 0 run.length
  run.take place ++ x :: run.drop place

/-- The number of elements that go on falling after one. -/
def falling (lt : A → A → Bool) (last : A) : List A → Nat
  | [] => 0
  | x :: rest => if lt x last then falling lt x rest + 1 else 0

/-- The number of elements that go on without falling after one. -/
def rising (lt : A → A → Bool) (last : A) : List A → Nat
  | [] => 0
  | x :: rest => if lt x last then 0 else rising lt x rest + 1

/-- The run in front of a list and what follows it.  A falling run is turned
round. -/
def first (lt : A → A → Bool) : List A → List A × List A
  | x :: y :: rest =>
      if lt y x then
        let size := falling lt y rest + 2
        (((x :: y :: rest).take size).reverse, (x :: y :: rest).drop size)
      else
        let size := rising lt y rest + 2
        ((x :: y :: rest).take size, (x :: y :: rest).drop size)
  | xs => (xs, [])

/-- The run in front of a list, lengthened to `least` elements if there are so
many, and what follows it. -/
def next (lt : A → A → Bool) (least : Nat) (xs : List A) : List A × List A :=
  let (run, rest) := first lt xs
  let lacking := least - run.length
  ((rest.take lacking).foldl (insertInto lt) run, rest.drop lacking)

/-- The least length of a run: the leading six bits of the number of elements,
one more if a bit behind them is set. -/
def leastLength : (fuel size : Nat) → (odd : Nat) → Nat
  | 0, size, odd => size + odd
  | fuel + 1, size, odd =>
      if 64 ≤ size then leastLength fuel (size / 2) (max odd (size % 2)) else size + odd

theorem insertInto_perm (lt : A → A → Bool) (run : List A) (x : A) :
    (insertInto lt run x).Perm (x :: run) := by
  unfold insertInto
  dsimp only
  refine List.perm_middle.trans ?_
  rw [List.take_append_drop]

theorem foldl_insertInto_perm (lt : A → A → Bool) (run xs : List A) :
    (xs.foldl (insertInto lt) run).Perm (run ++ xs) := by
  induction xs generalizing run with
  | nil => simp
  | cons x rest ih =>
      refine (ih (insertInto lt run x)).trans ?_
      exact ((insertInto_perm lt run x).append_right rest).trans List.perm_middle.symm

theorem first_perm (lt : A → A → Bool) (xs : List A) :
    ((first lt xs).1 ++ (first lt xs).2).Perm xs := by
  unfold first
  split
  · split
    · exact ((List.reverse_perm _).append_right _).trans (by rw [List.take_append_drop])
    · simp only [List.take_append_drop, List.Perm.refl]
  · simp

theorem next_perm (lt : A → A → Bool) (least : Nat) (xs : List A) :
    ((next lt least xs).1 ++ (next lt least xs).2).Perm xs := by
  unfold next
  dsimp only
  refine ((foldl_insertInto_perm lt _ _).append_right _).trans ?_
  rw [List.append_assoc, List.take_append_drop]
  exact first_perm lt xs

end Runs

end Kanban
