/-
Sinks are told of every new schema document.  What a sink does when it is told is a
list of actions; it may fail, subscribe further sinks, or register entities and
build again while it is being told.  No two calls of a sink need be alike.
-/
import Kanban.FileTree
import Kanban.Registry.Basic

namespace Kanban

/-- One thing that a sink does with a document. -/
inductive SinkAction where
  /-- Note the document under a name. -/
  | record (name : String)
  /-- Give up with a message. -/
  | fail (message : String)
  /-- Subscribe another sink, under a label and with what it does at its calls. -/
  | subscribe (label : String) (calls : List (List SinkAction))
  /-- Register an entity; a name that is taken is a failure. -/
  | register (entity : Entity)
  /-- Build again. -/
  | build
  /-- Register an entity and build, unless its name is taken. -/
  | extend (entity : Entity)
  /-- Note the end of the work under a name. -/
  | finish (name : String)
  /-- Log the document and write its text to a file. -/
  | save (path : Path)

/-- A sink under the label that messages use, with what it does at its first call, at
its second and so on.  From then on it does what it did last. -/
structure Sink where
  label : String
  calls : List (List SinkAction)

/-- What a sink does when it has been called some times before. -/
def Sink.actions (sink : Sink) (before : Nat) : List SinkAction :=
  (sink.calls[before]?).getD (sink.calls.getLast?.getD [])

/-- A sink whose calls are all alike. -/
def Sink.always (label : String) (actions : List SinkAction) : Sink :=
  ⟨label, [actions]⟩

/-- The sink that keeps a file up to date. -/
def Sink.file (path : String) : Sink :=
  let path := Path.ofText path
  .always ("FileSchemaSink(" ++ quoted path.text ++ ")") [.save path]

mutual

/-- How many actions register an entity, counting the sinks to be subscribed. -/
def SinkAction.extensions : SinkAction → Nat
  | .register _ => 1
  | .extend _ => 1
  | .subscribe _ calls => extensionsOf calls
  | _ => 0

def SinkAction.extensionsAll : List SinkAction → Nat
  | [] => 0
  | action :: rest => action.extensions + SinkAction.extensionsAll rest

def SinkAction.extensionsOf : List (List SinkAction) → Nat
  | [] => 0
  | actions :: rest => SinkAction.extensionsAll actions + SinkAction.extensionsOf rest

end

/-- What sinks note. -/
inductive SinkEvent where
  | delivered (name : String) (document : Document)
  | finished (name : String)
deriving DecidableEq

/-- One call of a sink: the place of the sink among all, the document it is told of,
and the document that is kept when it is told. -/
structure Delivery where
  place : Nat
  document : Document
  kept : Option Document
deriving DecidableEq

/-- The calls of the sink at one place. -/
def deliveriesTo (place : Nat) (deliveries : List Delivery) : List Delivery :=
  deliveries.filter fun delivery => decide (delivery.place = place)

end Kanban
