/-
Merging two neighbouring runs.  Elements are compared one by one until one run
keeps winning; then long stretches are taken at once.  Of elements that compare
with nothing it follows from the comparisons made where they end up.  The main
statement says that no element is lost.
-/
import Kanban.Ordering.Runs

namespace Kanban

universe u

variable {A : Type u}

namespace Runs

/-- Strides of 1, 3, 7, … below `most`: the last one that holds while all do,
and the one after it. -/
def stride (holds : Nat → Bool) (most : Nat) : (fuel last next : Nat) → Nat × Nat
  | 0, last, next => (last, min next most)
  | fuel + 1, last, next =>
      if decide (next < most) && holds next then
        stride holds most fuel next (2 * next + 1)
      else (last, min next most)

/-- How many elements in front are `before`, looked for with growing strides
away from a place. -/
def gallop (before : A → Bool) (xs : List A) (place : Nat) : Nat :=
  let holds (place : Nat) : Bool := xs[place]?.any before
  if holds place then
    let (last, next) :=
      stride (fun step => holds (place + step)) (xs.length - place) xs.length 0 1
    bisect before xs xs.length (place + last + 1) (place + next)
  else
    let (last, next) :=
      stride (fun step => !holds (place - step)) (place + 1) xs.length 0 1
    bisect before xs xs.length (place + 1 - next) (place - last)

/-- A merge on its way from one end: the elements taken so far, the rest of the
run that is kept aside, and the rest of the other one. -/
structure Merging (A : Type u) where
  taken : List A
  kept : List A
  other : List A

namespace Merging

/-- A merge needs no more comparing when one element is left aside, or none of
the other run. -/
def isOver (merging : Merging A) : Bool :=
  decide (merging.kept.length ≤ 1) || merging.other.isEmpty

/-- All elements in the order of the merge.  The last one kept aside goes
behind all others. -/
def elements (merging : Merging A) : List A :=
  merging.taken ++
    if merging.kept.length ≤ 1 then merging.other ++ merging.kept
    else merging.kept ++ merging.other

def takeKept (merging : Merging A) (count : Nat) : Merging A :=
  ⟨merging.taken ++ merging.kept.take count, merging.kept.drop count, merging.other⟩

def takeOther (merging : Merging A) (count : Nat) : Merging A :=
  ⟨merging.taken ++ merging.other.take count, merging.kept, merging.other.drop count⟩

end Merging

/-- How a merge compares: whether the next element of the other run goes before
the next one kept aside, and how many of either run go before the next element
of the opposite one.  From the front the kept run gallops first. -/
structure Ends (A : Type u) where
  yields : A → A → Bool
  keptBefore : A → List A → Nat
  otherBefore : A → List A → Nat
  keptFirst : Bool

/-- Merging from the front, with the first run kept aside. -/
def Ends.front (lt : A → A → Bool) : Ends A where
  yields kept other := lt other kept
  keptBefore other run := gallop (fun x => !lt other x) run 0
  otherBefore kept run := gallop (fun x => lt x kept) run 0
  keptFirst := true

/-- Merging from the back, with the second run kept aside and both turned
round. -/
def Ends.back (lt : A → A → Bool) : Ends A where
  yields kept other := lt kept other
  keptBefore other run :=
    run.length - gallop (fun x => lt x other) run.reverse (run.length - 1)
  otherBefore kept run :=
    run.length - gallop (fun x => !lt kept x) run.reverse (run.length - 1)
  keptFirst := false

/-- Take as many kept elements as go before the next other one, and count
them. -/
def Ends.runKept (ends : Ends A) (merging : Merging A) : Merging A × Nat :=
  match merging.other with
  | x :: _ =>
      let count := ends.keptBefore x merging.kept
      if merging.isOver then (merging, 0) else (merging.takeKept count, count)
  | [] => (merging, 0)

/-- Take as many other elements as go before the next kept one, and count
them. -/
def Ends.runOther (ends : Ends A) (merging : Merging A) : Merging A × Nat :=
  match merging.kept with
  | x :: _ =>
      let count := ends.otherBefore x merging.other
      if merging.isOver then (merging, 0) else (merging.takeOther count, count)
  | [] => (merging, 0)

def oneKept (merging : Merging A) : Merging A :=
  if merging.isOver then merging else merging.takeKept 1

def oneOther (merging : Merging A) : Merging A :=
  if merging.isOver then merging else merging.takeOther 1

/-- One round of galloping through both runs, and the longer of its two
takings. -/
def Ends.round (ends : Ends A) (merging : Merging A) : Merging A × Nat :=
  if ends.keptFirst then
    let (merging, kept) := ends.runKept merging
    let (merging, other) := ends.runOther (oneOther merging)
    (oneKept merging, max kept other)
  else
    let (merging, other) := ends.runOther merging
    let (merging, kept) := ends.runKept (oneKept merging)
    (oneOther merging, max kept other)

/-- Galloping goes on while it takes at least so many elements at once. -/
def worthwhile : Nat := 7

mutual

/-- Compare element by element, until one run has won `limit` times in a row. -/
def turns (ends : Ends A) :
    (fuel limit keptWins otherWins : Nat) → Merging A → Merging A × Nat
  | 0, limit, _, _, merging => (merging, limit)
  | fuel + 1, limit, keptWins, otherWins, merging =>
      match merging.kept, merging.other with
      | x :: _ :: _, y :: _ =>
          if ends.yields x y then
            if limit ≤ otherWins + 1 then strides ends fuel limit (merging.takeOther 1)
            else turns ends fuel limit 0 (otherWins + 1) (merging.takeOther 1)
          else if limit ≤ keptWins + 1 then strides ends fuel limit (merging.takeKept 1)
          else turns ends fuel limit (keptWins + 1) 0 (merging.takeKept 1)
      | _, _ => (merging, limit)

/-- Gallop while it pays, which makes it start earlier the next time; when it
does not, it starts later. -/
def strides (ends : Ends A) : (fuel limit : Nat) → Merging A → Merging A × Nat
  | 0, limit, merging => (merging, limit)
  | fuel + 1, limit, merging =>
      if merging.isOver then (merging, limit)
      else
        let (merging, longest) := ends.round merging
        if merging.isOver then (merging, limit)
        else if worthwhile ≤ longest then strides ends fuel (max 1 (limit - 1)) merging
        else turns ends fuel (limit + 1) 0 0 merging

end

/-- Merge what is kept aside with the other run, whose first element is known
to go first. -/
def mergeFrom (ends : Ends A) (limit : Nat) (kept other : List A) : List A × Nat :=
  let start : Merging A := (Merging.mk [] kept other).takeOther 1
  let (merging, limit) := turns ends (kept.length + other.length) limit 0 0 start
  (merging.elements, limit)

/-- How many elements at the front of a run are in their place before another
run. -/
def settled (lt : A → A → Bool) (left : List A) : (right : List A) → Nat
  | x :: _ => gallop (fun y => !lt x y) left 0
  | [] => left.length

/-- How many elements at the front of a run go before the last one of the run
to its left. -/
def unsettled (lt : A → A → Bool) (left right : List A) : Nat :=
  match left.getLast? with
  | some x => gallop (fun y => lt y x) right (right.length - 1)
  | none => 0

/-- Merge two runs of which no element is known to be in its place, the shorter
one kept aside. -/
def mergeRests (lt : A → A → Bool) (limit : Nat) (left right : List A) : List A × Nat :=
  if left.length ≤ right.length then mergeFrom (Ends.front lt) limit left right
  else
    let (turned, limit) := mergeFrom (Ends.back lt) limit right.reverse left.reverse
    (turned.reverse, limit)

/-- Merge two neighbouring runs.  What is in its place at either side is left
there. -/
def merge (lt : A → A → Bool) (limit : Nat) (left right : List A) : List A × Nat :=
  let place := settled lt left right
  let count := unsettled lt (left.drop place) right
  if count = 0 then (left ++ right, limit)
  else
    let (middle, limit) := mergeRests lt limit (left.drop place) (right.take count)
    (left.take place ++ middle ++ right.drop count, limit)

namespace Merging

/-- The elements taken and left, one part behind the other. -/
def all (merging : Merging A) : List A :=
  merging.taken ++ merging.kept ++ merging.other

theorem elements_perm (merging : Merging A) : merging.elements.Perm merging.all := by
  unfold elements all
  rw [List.append_assoc]
  refine List.Perm.append_left _ ?_
  split
  · exact List.perm_append_comm
  · exact List.Perm.refl _

theorem takeKept_perm (merging : Merging A) (count : Nat) :
    (merging.takeKept count).all.Perm merging.all := by
  simp [takeKept, all]

theorem takeOther_perm (merging : Merging A) (count : Nat) :
    (merging.takeOther count).all.Perm merging.all := by
  unfold takeOther all
  simp only [List.append_assoc]
  refine List.Perm.append_left _ ?_
  refine (List.perm_append_comm_assoc _ _ _).trans ?_
  rw [List.take_append_drop]

end Merging

theorem oneKept_perm (merging : Merging A) : (oneKept merging).all.Perm merging.all := by
  unfold oneKept
  split
  · exact List.Perm.refl _
  · exact merging.takeKept_perm 1

theorem oneOther_perm (merging : Merging A) : (oneOther merging).all.Perm merging.all := by
  unfold oneOther
  split
  · exact List.Perm.refl _
  · exact merging.takeOther_perm 1

theorem Ends.runKept_perm (ends : Ends A) (merging : Merging A) :
    (ends.runKept merging).1.all.Perm merging.all := by
  unfold runKept
  split
  · dsimp only
    split
    · exact List.Perm.refl _
    · exact merging.takeKept_perm _
  · exact List.Perm.refl _

theorem Ends.runOther_perm (ends : Ends A) (merging : Merging A) :
    (ends.runOther merging).1.all.Perm merging.all := by
  unfold runOther
  split
  · dsimp only
    split
    · exact List.Perm.refl _
    · exact merging.takeOther_perm _
  · exact List.Perm.refl _

theorem Ends.round_perm (ends : Ends A) (merging : Merging A) :
    (ends.round merging).1.all.Perm merging.all := by
  unfold round
  split
  · exact (oneKept_perm _).trans ((ends.runOther_perm _).trans
      ((oneOther_perm _).trans (ends.runKept_perm _)))
  · exact (oneOther_perm _).trans ((ends.runKept_perm _).trans
      ((oneKept_perm _).trans (ends.runOther_perm _)))

mutual

theorem turns_perm (ends : Ends A) (fuel limit keptWins otherWins : Nat)
    (merging : Merging A) :
    (turns ends fuel limit keptWins otherWins merging).1.all.Perm merging.all := by
  unfold turns
  split
  · exact List.Perm.refl _
  · split
    · split
      · split
        · exact (strides_perm ..).trans (merging.takeOther_perm 1)
        · exact (turns_perm ..).trans (merging.takeOther_perm 1)
      · split
        · exact (strides_perm ..).trans (merging.takeKept_perm 1)
        · exact (turns_perm ..).trans (merging.takeKept_perm 1)
    · exact List.Perm.refl _

theorem strides_perm (ends : Ends A) (fuel limit : Nat) (merging : Merging A) :
    (strides ends fuel limit merging).1.all.Perm merging.all := by
  unfold strides
  split
  · exact List.Perm.refl _
  · split
    · exact List.Perm.refl _
    · dsimp only
      split
      · exact ends.round_perm merging
      · split
        · exact (strides_perm ..).trans (ends.round_perm merging)
        · exact (turns_perm ..).trans (ends.round_perm merging)

end

theorem mergeFrom_perm (ends : Ends A) (limit : Nat) (kept other : List A) :
    (mergeFrom ends limit kept other).1.Perm (kept ++ other) := by
  unfold mergeFrom
  exact (Merging.elements_perm _).trans
    ((turns_perm ..).trans (Merging.takeOther_perm _ 1))

theorem mergeRests_perm (lt : A → A → Bool) (limit : Nat) (left right : List A) :
    (mergeRests lt limit left right).1.Perm (left ++ right) := by
  unfold mergeRests
  split
  · exact mergeFrom_perm ..
  · refine (List.reverse_perm _).trans ((mergeFrom_perm ..).trans ?_)
    exact ((List.reverse_perm _).append (List.reverse_perm _)).trans List.perm_append_comm

theorem merge_perm (lt : A → A → Bool) (limit : Nat) (left right : List A) :
    (merge lt limit left right).1.Perm (left ++ right) := by
  unfold merge
  dsimp only
  split
  · exact List.Perm.refl _
  · generalize settled lt left right = place
    generalize unsettled lt (left.drop place) right = count
    have hwhole : left ++ right =
        left.take place ++ (left.drop place ++ right.take count) ++ right.drop count := by
      rw [← List.append_assoc, List.take_append_drop, List.append_assoc,
        List.take_append_drop]
    rw [hwhole]
    exact List.Perm.append_right _ (List.Perm.append_left _ (mergeRests_perm ..))

end Runs

end Kanban
