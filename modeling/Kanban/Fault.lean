/-
Faults are errors as callers see them: a message, a code for programs, details,
and whether the same request may succeed when it is sent again.
-/
import Kanban.Move.Report
import Kanban.Ordering.Request

namespace Kanban

structure Fault where
  message : String
  code : String
  details : Entries
  retryable : Bool
deriving DecidableEq

/-- The written form of a fault. -/
def Fault.toMapping (fault : Fault) : Entries :=
  [("error", .text fault.message), ("error_code", .text fault.code),
    ("details", .map fault.details), ("retryable", .bool fault.retryable)]

/-- A move that has no place. -/
def Fault.invalidMove (message id : String) : Fault :=
  ⟨message, "INVALID_MOVE", [("entity_id", .text id)], false⟩

def Fault.notFound (kind : Kind) (id : String) : Fault :=
  ⟨notFoundMessage kind id, "NOT_FOUND",
    [("kind", .text kind.name), ("entity_id", .text id)], false⟩

/-- A lost race; the only fault worth retrying. -/
def Fault.conflict (message container : String) (expected actual : Option Int) : Fault :=
  ⟨message, "CONFLICT",
    [("container_id", .text container), ("expected_version", .ofIndex expected),
      ("actual_version", .ofIndex actual)], true⟩

/-- A fault with the id as it was written, if that is no text. -/
def Fault.naming (fault : Fault) (id : Value) : Fault :=
  { fault with
    details := fault.details.map fun (key, value) =>
      if key = "entity_id" ∧ id.text? = none then (key, id) else (key, value) }

def Fault.duplicateEntity (name : Value) : Fault :=
  ⟨"Entity '" ++ name.shown ++ "' is already registered", "DUPLICATE_ENTITY",
    [("entity_name", name)], false⟩

def Conflict.fault (conflict : Conflict) : Fault :=
  .conflict conflict.message conflict.container conflict.expected?
    (conflict.actual?.map Int.ofNat)

def PlanError.fault? : PlanError → Option Fault
  | .noTarget id => some (.invalidMove (noTargetMessage id) id)
  | .noRoom _ => none

/-- The fault of a move that was turned down.  A position without a whole
number beside it and an item that vanished inside a write have none: they are
not the caller's doing. -/
def MoveError.fault? (cause : MoveError) : Option Fault :=
  match cause with
  | .noTarget id => some (.invalidMove cause.message id)
  | .otherBoard id _ _ => some (.invalidMove cause.message id)
  | .notFound kind id => some (.notFound kind id)
  | .contended _ target _ _ => some (.conflict cause.message target none none)
  | .missing _ => none
  | .noRoom _ => none

/-- The conflict behind a move that was given up. -/
def MoveError.cause? : MoveError → Option Conflict
  | .contended _ _ _ last => last
  | _ => none

end Kanban
