/-
Move requests on the wire: a mapping with the keys entityId, fromIndex,
toIndex and targetContainerId, of which the first and the last are required.
-/
import Kanban.Ordering.Sibling
import Kanban.Value

namespace Kanban

/-- A required key that a mapping lacks. -/
structure MissingKey where
  key : String
deriving DecidableEq

def Value.int? : Value → Option Int
  | .int value => some value
  | _ => none

/-- The value of an index that may be absent or null. -/
def Value.ofIndex : Option Int → Value
  | some index => .int index
  | none => .null

/-- A request as it is written.  Nothing is asked of its parts but that the
required ones are there. -/
structure WrittenRequest where
  id : Value
  fromIndex : Value
  toIndex : Value
  target : Value
deriving DecidableEq

namespace WrittenRequest

/-- Read a request; the entity's id is asked for first. -/
def ofMapping (fields : Entries) : Except MissingKey WrittenRequest :=
  let required (key : String) : Except MissingKey Value :=
    match Mapping.get? (.text key) fields with
    | some value => .ok value
    | none => .error ⟨key⟩
  let index (key : String) : Value := (Mapping.get? (.text key) fields).getD .null
  match required "entityId", required "targetContainerId" with
  | .error missing, _ => .error missing
  | _, .error missing => .error missing
  | .ok id, .ok target => .ok ⟨id, index "fromIndex", index "toIndex", target⟩

/-- The wire form, with null for absent indices. -/
def toMapping (request : WrittenRequest) : Entries :=
  [("entityId", request.id), ("fromIndex", request.fromIndex),
    ("toIndex", request.toIndex), ("targetContainerId", request.target)]

/-- Whether the entry comes from another container. -/
def isArrival (request : WrittenRequest) : Bool :=
  request.fromIndex = .null

/-- The request for a move between entries that are known by name.  An id that is
no text is named as it prints; nothing that is stored goes by one. -/
def move (request : WrittenRequest) : MoveRequest :=
  ⟨request.id.shown, request.fromIndex.int?, request.toIndex.int?, request.target.shown⟩

end WrittenRequest

def MoveRequest.ofMapping (fields : Entries) : Except MissingKey MoveRequest :=
  (WrittenRequest.ofMapping fields).map WrittenRequest.move

/-- The wire form, with null for absent indices. -/
def MoveRequest.toMapping (request : MoveRequest) : Entries :=
  [("entityId", .text request.id), ("fromIndex", .ofIndex request.fromIndex),
    ("toIndex", .ofIndex request.toIndex), ("targetContainerId", .text request.target)]

/-- Reading a written request gives it back. -/
theorem MoveRequest.ofMapping_toMapping (request : MoveRequest) :
    MoveRequest.ofMapping request.toMapping = .ok request := by
  rcases request with ⟨id, fromIndex, toIndex, target⟩
  cases fromIndex <;> cases toIndex <;>
    simp [MoveRequest.ofMapping, MoveRequest.toMapping, WrittenRequest.ofMapping,
      WrittenRequest.move, Value.shown, Mapping.get?, Value.ofIndex, Value.int?,
      Except.map]

end Kanban
