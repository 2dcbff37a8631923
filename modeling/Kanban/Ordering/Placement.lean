/-
The ordering engine.  A move writes one new position, found between the two
neighbours of the slot it goes to; everything else stays where it is.
-/
import Kanban.Ordering.Sibling

namespace Kanban

variable {P : Type}

/-- Positions that leave room around and between them.  The two outer steps
go to a whole number, which an infinite or undefined position does not have. -/
class Coordinate (P : Type) where
  /-- The position of the only entry of a container. -/
  first : P
  /-- The position of a new last entry. -/
  after : P → Except Binary64.NotFinite P
  /-- The position of a new first entry. -/
  before : P → Except Binary64.NotFinite P
  /-- The position of an entry between two others. -/
  between : P → P → P

/-- One past the next whole number above, one below the next whole number
below, and the midpoint of the rounded sum. -/
instance : Coordinate Binary64 where
  first := .ofInt 1
  after position := position.ceil.map fun whole => .ofInt (whole + 1)
  before position := position.floor.map fun whole => .ofInt (whole - 1)
  between low high := (low.add high).half

/-- The same formula without rounding. -/
instance : Coordinate Rat where
  first := 1
  after position := .ok (position.ceil + 1 : Int)
  before position := .ok (position.floor - 1 : Int)
  between low high := (low + high) / 2

/-- An index forced into the slots 0 to `length`. -/
def clampIndex (index : Int) (length : Nat) : Nat :=
  (max 0 (min index length)).toNat

/-- A view without one entry; a view that does not hold it stays the same. -/
def detach (siblings : List (Sibling P)) (id : String) : List (Sibling P) :=
  siblings.filter fun sibling => decide (sibling.id ≠ id)

/-- The entries right before and right after a slot. -/
def neighbors (remaining : List (Sibling P)) (index : Int) :
    Option (Sibling P) × Option (Sibling P) :=
  match clampIndex index remaining.length with
  | 0 => (none, remaining[0]?)
  | slot + 1 => (remaining[slot]?, remaining[slot + 1]?)

/-- The position for a slot with the given neighbours. -/
def positionBetween [Coordinate P] :
    Option (Sibling P) → Option (Sibling P) → Except Binary64.NotFinite P
  | none, none => .ok Coordinate.first
  | some prev, none => Coordinate.after prev.position
  | none, some next => Coordinate.before next.position
  | some prev, some next => .ok (Coordinate.between prev.position next.position)

/-- The position for an entry that joins a view at a slot. -/
def insertPosition [Coordinate P] (remaining : List (Sibling P)) (index : Int) :
    Except Binary64.NotFinite P :=
  let (prev, next) := neighbors remaining index
  positionBetween prev next

/-- Why a move cannot be planned. -/
inductive PlanError where
  /-- The request names no target index. -/
  | noTarget (id : String)
  /-- The neighbour of the slot has no whole number beside it. -/
  | noRoom (cause : Binary64.NotFinite)
deriving DecidableEq

/-- A planned move: the new position, the neighbours of the slot and the view
that results. -/
structure Placement (P : Type) where
  position : P
  prev : Option (Sibling P)
  next : Option (Sibling P)
  ordered : List (Sibling P)
  noop : Bool
deriving DecidableEq

/-- The moved entry in the view, best looked for at the index it comes from. -/
def current? (siblings : List (Sibling P)) (request : MoveRequest) :
    Option (Sibling P) :=
  let indexed :=
    match request.fromIndex with
    | some (.ofNat index) => siblings[index]?.filter fun s => decide (s.id = request.id)
    | _ => none
  indexed <|> siblings.find? fun s => decide (s.id = request.id)

/-- Put an entry with a new position into a slot of a view. -/
def placeAt (remaining : List (Sibling P)) (slot : Nat) (moved : Option (Sibling P))
    (position : P) (target : String) : List (Sibling P) :=
  match moved with
  | none => remaining
  | some entry =>
      remaining.insertIdx slot { entry with position := position, container := target }

/-- Plan a move against the ordered view of the target container.  An entry
that starts and ends at one index of the view stays as it is; otherwise it
goes between the neighbours of its slot.  The entry itself is taken from
`entity`, or from the view. -/
def planMove [Coordinate P] (siblings : List (Sibling P)) (request : MoveRequest)
    (entity : Option (Sibling P)) : Except PlanError (Placement P) :=
  match request.toIndex with
  | none => .error (.noTarget request.id)
  | some toIndex =>
      let current := current? siblings request
      let remaining := detach siblings request.id
      let (prev, next) := neighbors remaining toIndex
      match current.filter fun _ => decide (request.fromIndex = some toIndex) with
      | some entry => .ok ⟨entry.position, prev, next, siblings, true⟩
      | none =>
          match positionBetween prev next with
          | .error cause => .error (.noRoom cause)
          | .ok position =>
              let slot := clampIndex toIndex remaining.length
              let ordered :=
                placeAt remaining slot (entity <|> current) position request.target
              .ok ⟨position, prev, next, ordered, false⟩

/-- The new position alone, as a caller that only knows the view computes it. -/
def computeInsertPosition [Coordinate P] (siblings : List (Sibling P))
    (request : MoveRequest) : Except PlanError P :=
  (planMove siblings request none).map Placement.position

end Kanban
