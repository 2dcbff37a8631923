/-
Siblings are the entries of one container as the ordering engine sees them:
an id, a position and a creation number.  The canonical order is by position,
then creation number, then id.
-/
import Kanban.Binary64.Basic
import Kanban.Ordering.RunSort
import Kanban.Ordering.Sorted

namespace Kanban

/-- One entry of a container.  Only the order of positions matters, not their
size. -/
structure Sibling (P : Type) where
  id : String
  position : P
  container : String
  seq : Int
deriving DecidableEq

/-- A move of one entry into a slot of the target container.  Indices count in
the target's ordered view; `fromIndex` is absent when the entry arrives from
another container. -/
structure MoveRequest where
  id : String
  fromIndex : Option Int
  toIndex : Option Int
  target : String
deriving DecidableEq

/-- Whether the entry comes from another container. -/
def MoveRequest.isArrival (request : MoveRequest) : Bool :=
  request.fromIndex.isNone

/-- Canonical order: equal positions are settled by creation number, equal
creation numbers by id. -/
def Sibling.le (a b : Sibling Binary64) : Bool :=
  a.position.lt b.position ||
    (a.position.same b.position &&
      (decide (a.seq < b.seq) || (decide (a.seq = b.seq) && decide (a.id ≤ b.id))))

/-- The strict order: the first component in which two siblings differ decides,
and a position that is no number differs from every other. -/
def Sibling.lt (a b : Sibling Binary64) : Bool :=
  if a.position.same b.position then
    decide (a.seq < b.seq) || (decide (a.seq = b.seq) && decide (a.id < b.id))
  else a.position.lt b.position

/-- Things in the canonical order of the siblings that they are.  The order is
total only among numbers; where a position is none, what is no smaller than its
neighbour stays behind it. -/
def orderBy {A : Type} (sibling : A → Sibling Binary64) (xs : List A) : List A :=
  if xs.all fun x => decide ((sibling x).position ≠ .nan) then
    sortBy (fun a b => (sibling a).le (sibling b)) xs
  else Runs.sort (fun a b => (sibling a).lt (sibling b)) xs

theorem orderBy_perm {A : Type} (sibling : A → Sibling Binary64) (xs : List A) :
    (orderBy sibling xs).Perm xs := by
  unfold orderBy
  split
  · exact sortBy_perm _ xs
  · exact Runs.sort_perm _ xs

theorem mem_orderBy {A : Type} {sibling : A → Sibling Binary64} {x : A} {xs : List A} :
    x ∈ orderBy sibling xs ↔ x ∈ xs :=
  (orderBy_perm sibling xs).mem_iff

/-- Siblings in their canonical order. -/
def orderSiblings (siblings : List (Sibling Binary64)) : List (Sibling Binary64) :=
  orderBy id siblings

end Kanban
