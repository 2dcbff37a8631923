/-
The schema tool.  It reads entity declarations, which are JSON in a file whose
suffix says so and YAML in any other, and prints their schema document or what
lint finds in them.
-/
import Kanban.CommandLine.Arguments
import Kanban.FileTree
import Kanban.Json
import Kanban.Registry.Basic
import Kanban.Schema.BoardEntities
import Kanban.Yaml.Reader

namespace Kanban

namespace CommandLine

/-- Why a command gives up. -/
inductive Failure where
  | noSource
  | file (cause : FileError)
  | notJson (cause : JsonError)
  | notYaml (cause : YamlError)
  | undeclared (cause : EntityError)
  | uncompiled (cause : CompileError)
  | unlinted (cause : NotText)

def noSourceMessage : String :=
  "error: a declaration file or --builtin is required"

/-- What a command leaves behind. -/
structure Outcome where
  status : Nat
  printed : String
  told : String
  files : FileTree

/-- The value that a declaration file holds. -/
def readValue (files : FileTree) (path : Path) : Except Failure Value :=
  match files.read path with
  | .error cause => .error (.file cause)
  | .ok text =>
      if path.suffix.toLower = ".json" then (Json.read? text).mapError .notJson
      else (Yaml.read? text).mapError .notYaml

/-- The entities that a declaration file declares. -/
def readEntities (files : FileTree) (path : String) : Except Failure (List Entity) := do
  match Entity.readAll? (← readValue files (Path.ofText path)) with
  | .ok entities => .ok entities
  | .error cause => .error (.undeclared cause)

/-- The entities to work on.  The built-in ones are taken whatever file is
named. -/
def Invocation.entities (invocation : Invocation) (files : FileTree) :
    Except Failure (List Entity) :=
  if invocation.builtin then .ok BoardEntities.all
  else
    match invocation.file with
    | none => .error .noSource
    | some path => if path = "" then .error .noSource else readEntities files path

/-- Print a text, or write it to a file if one is named. -/
def deliver (files : FileTree) (text : String) (output : Option String) :
    Except Failure Outcome :=
  match output.filter (· ≠ "") with
  | none => .ok ⟨0, text, "", files⟩
  | some path =>
      match files.write (Path.ofText path) text with
      | .ok files => .ok ⟨0, "", "Schema written to " ++ path ++ "\n", files⟩
      | .error cause => .error (.file cause)

/-- What lint prints. -/
def lintReport (problems : List String) : String :=
  if problems.isEmpty then "Entity declarations are clean\n"
  else
    "Lint found " ++ toString problems.length ++ " problem(s):\n" ++
      String.join (problems.map fun problem => "  - " ++ problem ++ "\n")

/-- Lint ends with status 1 when it has found something. -/
def lint (files : FileTree) (entities : List Entity) : Except Failure Outcome :=
  match Entity.lintAll entities with
  | .ok problems => .ok ⟨if problems.isEmpty then 0 else 1, lintReport problems, "", files⟩
  | .error cause => .error (.unlinted cause)

def compile (files : FileTree) (entities : List Entity) (output : Option String) :
    Except Failure Outcome :=
  match schemaText .utf8 entities with
  | .ok text => deliver files text output
  | .error cause => .error (.uncompiled cause)

/-- Run a command among files. -/
def Invocation.execute (invocation : Invocation) (files : FileTree) :
    Except Failure Outcome := do
  let entities ← invocation.entities files
  match invocation.command with
  | .compile => compile files entities invocation.output
  | .lint => lint files entities

def usage : String :=
  "usage: board-schema compile [--builtin] [--output OUTPUT] [file]\n" ++
    "       board-schema lint [--builtin] [file]\n"

/-- The status after arguments that do not fit together. -/
def misuseStatus : Nat := 2

end CommandLine

end Kanban
