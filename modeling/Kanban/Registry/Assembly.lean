/-
Assembling the schema document.  An assembly holds the registered entities,
the document last built and the sinks.  Building compiles everything; sinks
are told only when the fingerprint has changed, and a sink that fails is
logged and passed over.
-/
import Kanban.Fault
import Kanban.Log
import Kanban.Registry.Sink

namespace Kanban

def NotText.message (cause : NotText) : String :=
  "'" ++ cause.value.typeName ++ "' object has no attribute 'strip'"

def DocumentError.message : DocumentError → String
  | .notText cause => cause.message
  | .uncoded message => message

def RegisterError.message : RegisterError → String
  | .duplicate name => (Fault.duplicateEntity name).message
  | .notKey name => "unhashable type: '" ++ name.typeName ++ "'"

/-- Entities, sinks and the document last built, with the coding of documents and the
calls of sinks, files, events and log lines that came of it. -/
structure Assembly where
  coding : Coding
  registry : Registry
  sinks : List Sink
  document : Option Document
  deliveries : List Delivery
  files : FileTree
  events : List SinkEvent
  log : List LogLine

/-- Why a reload is turned down: a declaration cannot be read, an entity cannot be
registered, or there is no document of them. -/
inductive ReloadError where
  | unreadable (cause : EntityError)
  | unregistered (cause : RegisterError)
  | unrendered (cause : DocumentError)

namespace Assembly

def empty : Assembly :=
  ⟨.utf8, .empty, [], none, [], .empty, [], []⟩

def note (assembly : Assembly) (level : Level) (text : String) : Assembly :=
  { assembly with log := assembly.log ++ [⟨level, text⟩] }

def emit (assembly : Assembly) (event : SinkEvent) : Assembly :=
  { assembly with events := assembly.events ++ [event] }

/-- Subscribe a sink to documents built from now on. -/
def addSink (assembly : Assembly) (sink : Sink) : Assembly :=
  { assembly with sinks := assembly.sinks ++ [sink] }

/-- Register an entity. -/
def register (assembly : Assembly) (entity : Entity) : Except RegisterError Assembly := do
  let registry ← assembly.registry.register entity
  let count := toString entity.fields.fields.length
  return { assembly with registry := registry }.note .debug
    ("Registered entity: " ++ entity.typeName ++ " (" ++ count ++ " fields)")

/-- Register entities in turn; those before one that is turned down stay registered. -/
def registerAll (assembly : Assembly) :
    List Entity → Assembly × Except RegisterError Unit
  | [] => (assembly, .ok ())
  | entity :: rest =>
      match assembly.register entity with
      | .ok assembly => assembly.registerAll rest
      | .error cause => (assembly, .error cause)

def warnOmissions (assembly : Assembly) : Assembly :=
  assembly.registry.omissions.foldl (fun assembly (entity, field) =>
    assembly.note .warning ("Field '" ++ field.name.shown ++ "' omitted from type '" ++ entity ++
      "': " ++ field.reason.text)) assembly

/-- Whether a document differs from the one last built. -/
def changes (assembly : Assembly) (document : Document) : Bool :=
  match assembly.document with
  | some previous => decide (previous.fingerprint ≠ document.fingerprint)
  | none => true

/-- Compile all entities and keep the document.  The answer tells whether it
is a new one. -/
def compile (assembly : Assembly) : Assembly × Except DocumentError (Document × Bool) :=
  let warned := assembly.warnOmissions
  match assembly.registry.document assembly.coding with
  | .error cause => (warned, .error cause)
  | .ok document =>
      let changed := assembly.changes document
      let kept := { warned with document := some document }
      let count := toString assembly.registry.entities.length
      let told :=
        if changed then
          kept.note .info ("Schema built with " ++ count ++ " entities, fingerprint=" ++
            document.fingerprint)
        else kept
      (told, .ok (document, changed))

/-- How an assembly is built again from within a sink. -/
abbrev Rebuild := Assembly → Assembly × Except DocumentError Document

/-- Run one action; the second component is the message of a failure. -/
def runAction (rebuild : Rebuild) (document : Document) (assembly : Assembly) :
    SinkAction → Assembly × Option String
  | .record name => (assembly.emit (.delivered name document), none)
  | .fail message => (assembly, some message)
  | .subscribe label calls => (assembly.addSink ⟨label, calls⟩, none)
  | .register entity =>
      match assembly.register entity with
      | .error cause => (assembly, some cause.message)
      | .ok extended => (extended, none)
  | .build =>
      match rebuild assembly with
      | (assembly, .ok _) => (assembly, none)
      | (assembly, .error cause) => (assembly, some cause.message)
  | .finish name => (assembly.emit (.finished name), none)
  | .extend entity =>
      match assembly.register entity with
      | .error (.duplicate _) => (assembly, none)
      | .error cause => (assembly, some cause.message)
      | .ok extended =>
          match rebuild extended with
          | (assembly, .ok _) => (assembly, none)
          | (assembly, .error cause) => (assembly, some cause.message)
  | .save path =>
      let logged := assembly.note .info ("Generated schema:\n\n" ++ document.text)
      let (files, failure) := assembly.files.save path document.text
      ({ logged with files := files }, failure.map FileError.message)

/-- Run actions up to the first that fails. -/
def runActions (rebuild : Rebuild) (document : Document) (assembly : Assembly) :
    List SinkAction → Assembly × Option String
  | [] => (assembly, none)
  | action :: rest =>
      match assembly.runAction rebuild document action with
      | (assembly, none) => assembly.runActions rebuild document rest
      | (assembly, some message) => (assembly, some message)

/-- Begin a call of the sink at a place. -/
def call (document : Document) (place : Nat) (assembly : Assembly) : Assembly :=
  { assembly with
    deliveries := assembly.deliveries ++ [⟨place, document, assembly.document⟩] }

/-- Tell the sink at a place of a document. -/
def tell (rebuild : Rebuild) (document : Document) (place : Nat) (sink : Sink)
    (assembly : Assembly) : Assembly :=
  let before := (deliveriesTo place assembly.deliveries).length
  match (assembly.call document place).runActions rebuild document (sink.actions before) with
  | (assembly, none) => assembly
  | (assembly, some message) =>
      assembly.note .error ("Schema sink " ++ sink.label ++ " failed: " ++ message)

/-- Tell sinks that stand side by side, the first of them at a place. -/
def tellAll (rebuild : Rebuild) (document : Document) : (place : Nat) → List Sink → Assembly →
    Assembly
  | _, [], assembly => assembly
  | place, sink :: rest, assembly =>
      tellAll rebuild document (place + 1) rest (assembly.tell rebuild document place sink)

/-- Tell the sinks that are subscribed now. -/
def notify (rebuild : Rebuild) (document : Document) (assembly : Assembly) : Assembly :=
  tellAll rebuild document 0 assembly.sinks assembly

/-- Build with sinks that may build again `depth` deep. -/
def buildWithin : (depth : Nat) → Rebuild
  | depth, assembly =>
      match assembly.compile with
      | (assembly, .error cause) => (assembly, .error cause)
      | (assembly, .ok (document, changed)) =>
          match depth, changed with
          | depth + 1, true => (assembly.notify (buildWithin depth) document, .ok document)
          | _, _ => (assembly, .ok document)

/-- How deep builds can nest.  A build within a sink tells sinks again only
after some sink has registered an entity that was not there, which each of
their registering actions does at most once. -/
def depth (assembly : Assembly) : Nat :=
  assembly.sinks.foldl (fun count sink => count + SinkAction.extensionsOf sink.calls) 1

/-- Compile all entities and tell the sinks of a changed document. -/
def build (assembly : Assembly) : Assembly × Except DocumentError Document :=
  buildWithin assembly.depth assembly

/-- Entities read one by one into a new registry. -/
def gather (registry : Registry) :
    List (Except EntityError Entity) → Except ReloadError Registry
  | [] => .ok registry
  | .error cause :: _ => .error (.unreadable cause)
  | .ok entity :: rest =>
      match registry.register entity with
      | .error cause => .error (.unregistered cause)
      | .ok registry => gather registry rest

/-- Replace all entities and build.  They are read one by one, and nothing
changes unless all of them can be read and registered side by side. -/
def reload (assembly : Assembly) (source : List (Except EntityError Entity)) :
    Assembly × Except ReloadError Document :=
  match gather .empty source with
  | .error cause => (assembly, .error cause)
  | .ok registry =>
      match { assembly with registry := registry }.compile with
      | (assembly, .error cause) => (assembly, .error (.unrendered cause))
      | (assembly, .ok (document, changed)) =>
          let count := toString registry.entities.length
          let told := assembly.note .info
            ("Schema metadata reloaded with " ++ count ++ " entities")
          if changed then (told.notify (buildWithin told.depth) document, .ok document)
          else (told, .ok document)

end Assembly

end Kanban
