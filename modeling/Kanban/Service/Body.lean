/-
Bodies of requests.  A body is a JSON object whose fields are checked in a fixed
order, so that all its problems are reported at once; fields that are not asked
for are ignored.
-/
import Kanban.Input.Scalar
import Kanban.Json
import Kanban.Ordering.Request
import Kanban.Text.Wide

namespace Kanban

/-- A body as it was sent, or as the value it holds. -/
inductive Body where
  | sent (content : String)
  | held (content : Value)

/-- Why a body does not give what is asked for. -/
inductive BodyError where
  /-- Its text cannot be held as a value, though it may be JSON. -/
  | unreadable
  | invalid (problems : List Problem)
deriving DecidableEq

namespace Body

def problem {A : Type} (kind : ProblemKind) (field : List String) (input : Value) :
    Except (List Problem) A :=
  .error [⟨kind, .key "body" :: field.map .key, input⟩]

/-- The text of a body.  A byte order mark may stand in front of it, and its
characters may have several bytes each. -/
def text? (content : String) : Option (List Char) :=
  let bytes := content.toUTF8.toList
  match content.toList, Wide.form? bytes with
  | '\ufeff' :: rest, _ => some rest
  | _, some form => form.decode? bytes
  | cs, none => some cs

def value? : Body → Except BodyError Value
  | .held content => .ok content
  | .sent content =>
      if content = "" then (problem .missing [] .null).mapError .invalid
      else
        match (text? content).map fun cs => Json.read? (String.ofList cs) with
        | some (.ok value) => .ok value
        | some (.error .malformed) => (problem .notJson [] (.map [])).mapError .invalid
        | some (.error (.tooLong _)) | none => .error .unreadable

/-- The fields of a body that is an object. -/
def fields? (body : Body) : Except BodyError Entries := do
  match ← body.value? with
  | .map fields => .ok fields
  | other => (problem .notObject [] other).mapError .invalid

/-- The first of some names that is given, with its value. -/
def given? (names : List String) (fields : Entries) : Option (String × Value) :=
  names.findSome? fun name => (Mapping.get? (.text name) fields).map fun value => (name, value)

/-- A field that must be given, reported under the name it is given by, or
under the first of its names. -/
def required {A : Type} (names : List String) (read : Value → Except ProblemKind A)
    (fields : Entries) : Except (List Problem) A :=
  match given? names fields with
  | none => problem .missing (names.take 1) (.map fields)
  | some (name, value) => locate [.key "body", .key name] value (read value)

/-- A field that may be left out or null. -/
def optional {A : Type} (names : List String) (read : Value → Except ProblemKind A)
    (fields : Entries) : Except (List Problem) (Option A) :=
  match given? names fields with
  | none => .ok none
  | some (name, value) =>
      locate [.key "body", .key name] value (Input.orNull read value)

end Body

/-- What a new list or card is made of. -/
structure NewItem where
  title : String
  description : Option String
deriving DecidableEq, Repr

namespace NewItem

def ofBody? (fields : Entries) : Except (List Problem) NewItem :=
  let title := Body.required ["title"] Input.nonEmptyText fields
  let description := Body.optional ["description"] Input.text fields
  match title, description with
  | .ok title, .ok description => .ok ⟨title, description⟩
  | _, _ => .error (problemsOf title ++ problemsOf description)

/-- A description that is not given is not kept. -/
def payload (item : NewItem) : Entries :=
  ("title", .text item.title) ::
    (item.description.map fun text => (Key.text "description", Value.text text)).toList

end NewItem

/-- The move of an item that a body asks for.  Each field goes by the name on
the wire or, if that is not given, by its words joined with underscores. -/
def MoveRequest.ofBody? (id : String) (fields : Entries) :
    Except (List Problem) MoveRequest :=
  let source := Body.optional ["fromIndex", "from_index"] Input.whole fields
  let index := Body.required ["toIndex", "to_index"] Input.whole fields
  let target :=
    Body.required ["targetContainerId", "target_container_id"] Input.text fields
  match source, index, target with
  | .ok source, .ok index, .ok target => .ok ⟨id, source, some index, target⟩
  | _, _, _ => .error (problemsOf source ++ problemsOf index ++ problemsOf target)

end Kanban
