/-
One attempt at a move.  The item is looked up, looked up again under the locks
of its source and target, planned against a fresh view of the target, and
written on condition that neither container has changed since.

Between these steps other writers may act.  An interference says what they do
at each of them, so everything a move can meet is an argument of the move.
-/
import Kanban.Log
import Kanban.Binary64.Decimal
import Kanban.Ordering.Renormalize
import Kanban.Store.Change

namespace Kanban

/-- When a gap calls for renumbering, and how many conflicts are overcome. -/
structure MovePolicy where
  threshold : Binary64
  maxRetries : Int

def MovePolicy.default : MovePolicy :=
  ⟨defaultThreshold, 3⟩

/-- Why a move is turned down. -/
inductive MoveError where
  | noTarget (id : String)
  | otherBoard (id source target : String)
  | notFound (kind : Kind) (id : String)
  | missing (id : String)
  | noRoom (cause : Binary64.NotFinite)
  | contended (id target : String) (attempts : Int) (last : Option Conflict)
deriving DecidableEq

/-- What a move reports while it runs. -/
inductive MoveNotice where
  | created (kind : Kind) (item : Item)
  | planned (id : String) (placement : Placement Binary64)
  | renumbered (kind : Kind) (target : String) (count : Nat)
  | conflicted (id : String) (attempt attempts : Int) (conflict : Conflict)

/-- The steps of an attempt that read or write the store. -/
inductive Moment where
  | load
  | reload
  | snapshot
  | sourceVersion
  | write
  | readBack
deriving DecidableEq, Repr

/-- What other writers do right before each step of a move, told by the number
of the attempt and the number of writes entered so far, and which of the
move's writes the backend refuses. -/
structure Interference where
  changes : Moment → (attempt : Nat) → (writes : Nat) → List Change
  refuses : (write : Nat) → Bool

/-- No other writers. -/
def Interference.none : Interference :=
  ⟨fun _ _ _ => [], fun _ => false⟩

/-- A move under way: the store, how many writes were entered and how many of
them took effect, what other writers have done meanwhile, and the reports. -/
structure Session where
  store : Store
  writes : Nat
  applied : Nat
  others : List Change
  notices : List MoveNotice

/-- What an operation of a writer reports: an item it created. -/
def Store.reports (store : Store) : Change → List MoveNotice
  | .create kind container draft =>
      match (store.create kind container draft).2 with
      | .ok item => [.created kind item]
      | .error _ => []
  | _ => []

def Store.reportsAll (store : Store) : List Change → List MoveNotice
  | [] => []
  | change :: rest => store.reports change ++ (store.apply change).reportsAll rest

namespace Session

/-- A move about to begin. -/
def start (store : Store) : Session :=
  ⟨store, 0, 0, [], []⟩

def note (session : Session) (notice : MoveNotice) : Session :=
  { session with notices := session.notices ++ [notice] }

/-- Let the other writers act before a step. -/
def yieldAt (session : Session) (env : Interference) (moment : Moment) (attempt : Nat) :
    Session :=
  let changes := env.changes moment attempt session.writes
  { session with
    store := session.store.applyAll changes
    others := session.others ++ changes
    notices := session.notices ++ session.store.reportsAll changes }

end Session

/-- How an attempt ends: with the moved item, with a conflict that may be
retried, or for good. -/
inductive AttemptEnd where
  | moved (item : Item)
  | conflict (cause : Conflict)
  | failed (cause : MoveError)

/-- The item of a request.  A list must already stand on the target board. -/
def Store.load (store : Store) (kind : Kind) (request : MoveRequest) :
    Except MoveError Item :=
  match store.get? kind request.id with
  | none => .error (.notFound kind request.id)
  | some item =>
      if kind = .list ∧ item.container ≠ request.target then
        .error (.otherBoard item.id item.container request.target)
      else .ok item

/-- Indices of another container's view mean nothing in the target. -/
def MoveRequest.within (request : MoveRequest) (source : String) : MoveRequest :=
  if source = request.target then request else { request with fromIndex := none }

/-- The planned view with the moved item where it is stored. -/
def storedView (ordered : List (Sibling Binary64)) (item : Item) : List (Sibling Binary64) :=
  ordered.map fun entry => if entry.id = item.id then item.snapshot else entry

/-- The new positions a placement calls for: the moved item's alone, or a
renumbering of the target when a gap is too small. -/
def placementPositions (placement : Placement Binary64) (item : Item)
    (threshold : Binary64) : Mapping Binary64 :=
  if needsRenormalization placement.ordered threshold then
    renormalize (storedView placement.ordered item)
  else [(item.id, placement.position)]

/-- The item itself changes containers only when it leaves its source. -/
def containerChanges (item : Item) (target : String) : Mapping String :=
  if item.container = target then [] else [(item.id, target)]

/-- A move that has been worked out: the item, the view of the target that it
was planned against, and the batch to be written. -/
structure PlannedMove where
  item : Item
  view : List (Sibling Binary64)
  batch : Batch

/-- How far an attempt gets before its write. -/
inductive Preparation where
  | ended (ending : AttemptEnd)
  | planned (move : PlannedMove)

/-- Work out the move of an item against a view of the target. -/
def planWrite (policy : MovePolicy) (kind : Kind) (request : MoveRequest) (item : Item)
    (view : List (Sibling Binary64)) (expected : Mapping Int) (session : Session) :
    Session × Preparation :=
  match planMove view (request.within item.container) (some item.snapshot) with
  | .error (.noTarget id) => (session, .ended (.failed (.noTarget id)))
  | .error (.noRoom cause) => (session, .ended (.failed (.noRoom cause)))
  | .ok placement =>
      let session := session.note (.planned item.id placement)
      if placement.noop ∧ item.container = request.target then (session, .ended (.moved item))
      else
        let positions := placementPositions placement item policy.threshold
        let session :=
          if needsRenormalization placement.ordered policy.threshold then
            session.note (.renumbered kind request.target positions.length)
          else session
        let batch : Batch := ⟨expected, positions, containerChanges item request.target⟩
        (session, .planned ⟨item, view, batch⟩)

/-- The part of an attempt under the locks up to its write: a second look at
the item, then the view and the versions of the containers. -/
def planLocked (policy : MovePolicy) (env : Interference) (kind : Kind)
    (request : MoveRequest) (source : String) (attempt : Nat) (session : Session) :
    Session × Preparation :=
  match session.store.load kind request with
  | .error cause => (session, .ended (.failed cause))
  | .ok item =>
      if item.container ≠ source then
        (session, .ended (.conflict (.relocated kind item.id source item.container)))
      else
        let session := session.yieldAt env .snapshot attempt
        let version : Int := session.store.version kind request.target
        let view := session.store.view kind request.target
        if item.container = request.target then
          planWrite policy kind request item view [(request.target, version)] session
        else
          let session := session.yieldAt env .sourceVersion attempt
          let sourceVersion : Int := session.store.version kind item.container
          planWrite policy kind request item view
            [(request.target, version), (item.container, sourceVersion)] session

/-- An attempt up to its write, from the first look at the item. -/
def prepareMove (policy : MovePolicy) (env : Interference) (kind : Kind)
    (request : MoveRequest) (attempt : Nat) (session : Session) : Session × Preparation :=
  let session := session.yieldAt env .load attempt
  match session.store.load kind request with
  | .error cause => (session, .ended (.failed cause))
  | .ok found =>
      planLocked policy env kind request found.container attempt
        (session.yieldAt env .reload attempt)

/-- Write a planned move and read the item back. -/
def commitMove (env : Interference) (kind : Kind) (target : String) (move : PlannedMove)
    (attempt : Nat) (session : Session) : Session × AttemptEnd :=
  let number := session.writes
  let session := session.yieldAt env .write attempt
  let session := { session with writes := number + 1 }
  if env.refuses number then (session, .conflict (.refused target))
  else
    match session.store.writePositions kind move.batch with
    | .error (.conflict cause) => (session, .conflict cause)
    | .error (.missing id) => (session, .failed (.missing id))
    | .ok written =>
        let session := { session with store := written, applied := session.applied + 1 }
        let session := session.yieldAt env .readBack attempt
        match session.store.get? kind move.item.id with
        | some moved => (session, .moved moved)
        | none => (session, .failed (.notFound kind move.item.id))

/-- One attempt, from the first look at the item to the read-back. -/
def attemptMove (policy : MovePolicy) (env : Interference) (kind : Kind)
    (request : MoveRequest) (attempt : Nat) (session : Session) : Session × AttemptEnd :=
  match prepareMove policy env kind request attempt session with
  | (session, .ended ending) => (session, ending)
  | (session, .planned move) => commitMove env kind request.target move attempt session

end Kanban
