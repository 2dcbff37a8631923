/-
The schema document: a preamble, the type of every entity, and the collected
queries and mutations, with blank lines between.  Its fingerprint is taken of the
bytes that its text is written as.
-/
import Kanban.Schema.Lint
import Kanban.Text.Sha256

namespace Kanban

/-- The line that every document starts with. -/
def preamble : String := "scalar Date"

/-- The text of a declared signature. -/
def signatureText : Value → Except NotText String
  | .text text => .ok (stripped text)
  | value => .error ⟨value⟩

/-- Indented lines with a comma after each but the last. -/
def operationLines : List String → List String
  | [] => []
  | [signature] => [indentation ++ signature]
  | signature :: rest => (indentation ++ signature ++ ",") :: operationLines rest

/-- The block of one kind of operation, left out when there are none. -/
def operationBlock (name : String) (signatures : List Value) :
    Except NotText (List String) := do
  if signatures.isEmpty then return []
  let texts ← signatures.mapM signatureText
  return [typeBlock name (operationLines texts)]

/-- The text of a document. -/
def renderDocument (entities : List CompiledEntity) : Except NotText String := do
  let types := entities.map fun entity => entity.definition.render
  let queries ← operationBlock "Query" (entities.flatMap CompiledEntity.queries)
  let mutations ← operationBlock "Mutation" (entities.flatMap CompiledEntity.mutations)
  return "\n\n".intercalate (preamble :: types ++ queries ++ mutations) ++ "\n"

/-- How texts are written as bytes, with what is said of a text that cannot be.  A
declaration may hold halves of characters, and these have no bytes; which they are
is left to the coding. -/
abbrev Coding := String → Except String (List UInt8)

/-- The coding of documents, where every whole character has bytes. -/
def Coding.utf8 : Coding :=
  fun text => .ok text.toUTF8.toList

/-- What tells two documents apart: the SHA-256 digest of the text's bytes. -/
def fingerprint (coding : Coding) (text : String) : Except String String :=
  (coding text).map fun bytes => "sha256:" ++ Sha256.hexDigest bytes

/-- Why entities have no document. -/
inductive DocumentError where
  | notText (cause : NotText)
  /-- The text has no bytes. -/
  | uncoded (message : String)
deriving DecidableEq

/-- A document with its fingerprint and the names of its entities. -/
structure Document where
  text : String
  fingerprint : String
  entities : List Value
deriving DecidableEq

/-- The document of entities in the order given. -/
def Document.ofEntities (coding : Coding) (entities : List Entity) :
    Except DocumentError Document := do
  let text ← (renderDocument (entities.map Entity.compile)).mapError .notText
  let fingerprint ← (Kanban.fingerprint coding text).mapError .uncoded
  return ⟨text, fingerprint, entities.map Entity.name⟩

end Kanban
