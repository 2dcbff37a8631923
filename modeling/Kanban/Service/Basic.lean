/-
The service behind the board view.  It keeps the board store, hands out the
schema document of the built-in entities, and creates, lists and moves lists
and cards.
-/
import Kanban.Move.Report
import Kanban.Schema.BoardEntities
import Kanban.Schema.Document
import Kanban.Service.Body
import Kanban.Service.Reply
import Kanban.Service.Resource

namespace Kanban

structure Request where
  method : Method
  path : String
  body : Body

structure Service where
  policy : MovePolicy
  store : Store

/-- A request dealt with: the service afterwards, the reply, what was logged,
and how many writes of positions were entered. -/
structure Served where
  service : Service
  reply : Reply
  log : List LogLine
  writes : Nat

namespace Service

def start (policy : MovePolicy) : Service :=
  ⟨policy, .empty⟩

/-- A reply that leaves everything as it is. -/
def answer (service : Service) (reply : Reply) : Served :=
  ⟨service, reply, [], 0⟩

/-- The schema document of the built-in entities. -/
def schemaReply : Reply :=
  match Document.ofEntities .utf8 BoardEntities.all with
  | .ok document =>
      .content (.map [("fingerprint", .text document.fingerprint),
        ("entities", .list document.entities), ("schema", .text document.text)])
  | .error _ => .failed

/-- The items of a container in order. -/
def contentsReply (service : Service) (kind : Kind) (container : String) : Reply :=
  .content (.list ((service.store.contents kind container).map (Reply.ofItem kind)))

/-- Create an item at the end of a container.  A card needs a list that is
there; a board need not be known. -/
def create (service : Service) (kind : Kind) (container : String) (item : NewItem) :
    Served :=
  if kind = .card ∧ (service.store.get? .list container).isNone then
    service.answer (.rejected (.notFound .list container))
  else
    let draft : Draft := ⟨item.payload, none, none⟩
    let notices := service.store.reports (.create kind container draft)
    let (store, result) := service.store.create kind container draft
    let reply :=
      match result with
      | .ok item => .content (Reply.ofItem kind item)
      | .error _ => .failed
    ⟨{ service with store := store }, reply, notices.map MoveNotice.line, 0⟩

def rejectionLine (kind : Kind) (id : String) (fault : Fault) : LogLine :=
  ⟨.info, "Rejected " ++ kind.name ++ " move of " ++ id ++ ": " ++ fault.code ++ " " ++
    fault.message⟩

/-- The reply to a move that was turned down, and its line in the log. -/
def rejection (kind : Kind) (id : String) (cause : MoveError) : Reply × List LogLine :=
  match cause.fault? with
  | some fault => (.rejected fault, [rejectionLine kind id fault])
  | none => (.failed, [])

/-- Move an item while other writers interfere. -/
def move (service : Service) (env : Interference) (kind : Kind) (request : MoveRequest) :
    Served :=
  let (session, result) := moveItem service.policy env kind request service.store
  let (reply, lines) :=
    match result with
    | .ok item => (.content (Reply.ofItem kind item), [])
    | .error cause => rejection kind request.id cause
  ⟨{ service with store := session.store }, reply,
    session.notices.map MoveNotice.line ++ lines, session.writes⟩

/-- Deal with a body by what its fields ask for; one with problems changes
nothing. -/
def withBody {A : Type} (service : Service) (body : Body)
    (read : Entries → Except (List Problem) A) (run : A → Served) : Served :=
  match body.fields? with
  | .error .unreadable => service.answer .unreadable
  | .error (.invalid problems) => service.answer (.ofProblems problems)
  | .ok fields =>
      match read fields with
      | .ok value => run value
      | .error problems => service.answer (.ofProblems problems)

/-- Deal with a request for a resource that allows its method. -/
def serve (service : Service) (env : Interference) (method : Method) (body : Body) :
    Resource → Served
  | .health =>
      service.answer (.content (.map [("status", .text "healthy"),
        ("service", .text "board-server")]))
  | .schema => service.answer schemaReply
  | .contents kind container =>
      if method = .get then service.answer (service.contentsReply kind container)
      else service.withBody body NewItem.ofBody? (service.create kind container)
  | .move kind id =>
      service.withBody body (MoveRequest.ofBody? id) (service.move env kind)
  | .manual => service.answer .page

/-- Deal with a request while other writers interfere with its move. -/
def handle (service : Service) (env : Interference) (request : Request) : Served :=
  match Resource.ofPath? request.path with
  | none =>
      service.answer (if Resource.isNear request.path then .elsewhere else .notFound)
  | some resource =>
      if resource.allows request.method then
        service.serve env request.method request.body resource
      else service.answer .notAllowed

end Service

end Kanban
