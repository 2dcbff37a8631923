/-
What the addresses of the service name: its health, the schema document, the
contents of boards and lists, the moves of lists and cards, and pages about the
service itself.
-/
import Kanban.Service.Address
import Kanban.Store.Item

namespace Kanban

inductive Resource where
  | health
  | schema
  /-- The lists of a board, or the cards of a list. -/
  | contents (kind : Kind) (container : String)
  | move (kind : Kind) (id : String)
  /-- A page that says how to use the service. -/
  | manual
deriving DecidableEq, Repr

/-- What a request wants of a resource. -/
inductive Method where
  | get
  /-- What getting would give, without the body. -/
  | head
  | post
  | other (name : String)
deriving DecidableEq, Repr

/-- The method of a name in any case. -/
def Method.ofName (name : String) : Method :=
  match name.toUpper with
  | "GET" => .get
  | "HEAD" => .head
  | "POST" => .post
  | name => .other name

namespace Resource

def allows : Resource → Method → Bool
  | .health, method => method = .get
  | .schema, method => method = .get
  | .contents .., method => method = .get || method = .post
  | .move .., method => method = .post
  | .manual, method => method = .get || method = .head

/-- A resource below the root of the interface. -/
def ofSegments? : List String → Option Resource
  | ["schema"] => some .schema
  | ["boards", board, "lists"] => some (.contents .list board)
  | ["lists", list, "cards"] => some (.contents .card list)
  | ["lists", list, "move"] => some (.move .list list)
  | ["cards", card, "move"] => some (.move .card card)
  | _ => none

/-- A path without the one line feed that may stand at its end. -/
def withoutLineFeed (path : String) : String :=
  match path.toList.reverse with
  | '\n' :: rest => String.ofList rest.reverse
  | _ => path

/-- The resource that a path names.  No segment of it is empty. -/
def ofPath? (path : String) : Option Resource :=
  match splitText '/' (withoutLineFeed path) with
  | "" :: segments =>
      if segments.contains "" then none
      else
        match segments with
        | ["health"] => some .health
        | ["docs"] | ["docs", "oauth2-redirect"] | ["redoc"] | ["openapi.json"] =>
            some .manual
        | "api" :: "v1" :: rest => ofSegments? rest
        | _ => none
  | _ => none

/-- A path without the slashes at its end. -/
def withoutSlashes (path : String) : String :=
  String.ofList (path.toList.reverse.dropWhile (· = '/')).reverse

/-- Whether a path would name a resource but for slashes at its end. -/
def isNear (path : String) : Bool :=
  path.endsWith "/" && (ofPath? (withoutSlashes path)).isSome

end Resource

end Kanban
