/-
Replies of the service: a status and a JSON body.
-/
import Kanban.Fault
import Kanban.Input.Problem

namespace Kanban

inductive Reply where
  | content (body : Value)
  /-- The request was understood and turned down. -/
  | rejected (fault : Fault)
  /-- The body of the request has problems. -/
  | invalid (problems : List Problem)
  /-- The body has problems with a value that the reply cannot show. -/
  | unwritable
  /-- The body of the request cannot be read. -/
  | unreadable
  | notFound
  | notAllowed
  /-- The resource goes by a shorter address. -/
  | elsewhere
  /-- A page for people. -/
  | page
  /-- Nobody's request should lead here. -/
  | failed
deriving DecidableEq

/-- The status under which a fault is reported. -/
def Fault.status (fault : Fault) : Nat :=
  ([("NOT_FOUND", 404), ("CONFLICT", 409), ("INVALID_MOVE", 400)].lookup fault.code).getD 500

namespace Reply

def status : Reply → Nat
  | .content _ => 200
  | .rejected fault => fault.status
  | .invalid _ => 422
  | .unwritable => 500
  | .unreadable => 400
  | .notFound => 404
  | .notAllowed => 405
  | .elsewhere => 307
  | .page => 200
  | .failed => 500

/-- Whether the body is JSON. -/
def isJson : Reply → Bool
  | .elsewhere => false
  | .page => false
  | _ => true

/-- Problems are replied with the values found, which must all be numbers where
they are doubles. -/
def ofProblems (problems : List Problem) : Reply :=
  if problems.all fun problem => problem.input.isWritable then .invalid problems
  else .unwritable

/-- What is said when a value cannot be shown. -/
def unwritableMessage : String :=
  "Out of range float values are not JSON compliant"

def detail (value : Value) : Value :=
  .map [("detail", value)]

def ofStep : PlaceStep → Value
  | .key name => .text name
  | .index number => .int number

def ofProblem (problem : Problem) : Value :=
  .map [("type", .text problem.kind.name), ("loc", .list (problem.place.map ofStep))]

def body : Reply → Value
  | .content body => body
  | .rejected fault => detail (.map fault.toMapping)
  | .invalid problems => detail (.list (problems.map ofProblem))
  | .unwritable => detail (.text "Internal Server Error")
  | .unreadable => detail (.text "There was an error parsing the body")
  | .notFound => detail (.text "Not Found")
  | .notAllowed => detail (.text "Method Not Allowed")
  | .elsewhere => .null
  | .page => .null
  | .failed => detail (.text "Internal Server Error")

/-- The wire form of an item. -/
def ofItem (kind : Kind) (item : Item) : Value :=
  .map [("id", .text item.id), ("kind", .text kind.name),
    ("containerId", .text item.container), ("position", .float item.position),
    ("payload", .map item.payload)]

end Reply

end Kanban
