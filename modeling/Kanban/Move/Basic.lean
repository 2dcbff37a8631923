/-
Moves of lists and cards.  An attempt that meets a conflict is repeated, up
to the number of retries of the policy; then the conflict is surfaced.
-/
import Kanban.Move.Attempt

namespace Kanban

/-- Repeat attempts while they conflict.  `left` of the given number are still
to be made, `last` is the conflict of the one before. -/
def retryMove (policy : MovePolicy) (env : Interference) (kind : Kind)
    (request : MoveRequest) (attempts : Int) :
    (left attempt : Nat) → Option Conflict → Session → Session × Except MoveError Item
  | 0, _, last, session =>
      (session, .error (.contended request.id request.target attempts last))
  | left + 1, attempt, _, session =>
      match attemptMove policy env kind request attempt session with
      | (session, .moved item) => (session, .ok item)
      | (session, .failed cause) => (session, .error cause)
      | (session, .conflict cause) =>
          let notice := .conflicted request.id (attempt + 1) attempts cause
          retryMove policy env kind request attempts left (attempt + 1) (some cause)
            (session.note notice)

/-- Move a list within its board, or a card within its list or to another
one, while other writers interfere. -/
def moveItem (policy : MovePolicy) (env : Interference) (kind : Kind)
    (request : MoveRequest) (store : Store) : Session × Except MoveError Item :=
  let session := Session.start store
  match request.toIndex with
  | none => (session, .error (.noTarget request.id))
  | some _ =>
      let attempts := policy.maxRetries + 1
      retryMove policy env kind request attempts attempts.toNat 0 none session

/-- A move that nothing interferes with. -/
def Store.move (store : Store) (policy : MovePolicy) (kind : Kind) (request : MoveRequest) :
    Store × Except MoveError Item :=
  let (session, result) := moveItem policy .none kind request store
  (session.store, result)

end Kanban
