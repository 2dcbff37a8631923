/-
Container locks.  Several are taken in one fixed order, so two moves that
need the same containers never wait for each other in a circle.
-/
import Kanban.Store.Item

namespace Kanban

/-- The order in which the locks of containers are taken: each once, by
code points. -/
def lockOrder (containers : List String) : List String :=
  sortBy (fun a b => decide (a ≤ b)) containers.eraseDups

/-- The locks held while containers of one kind are locked. -/
def locksHeld (kind : Kind) (containers : List String) : List (Kind × String) :=
  (lockOrder containers).map fun container => (kind, container)

/-- Which of the named containers are locked, lists before cards. -/
def lockReport (held : List (Kind × String)) (names : List String) : List (Kind × String) :=
  [Kind.list, Kind.card].flatMap fun kind =>
    ((lockOrder names).map fun name => (kind, name)).filter fun lock => decide (lock ∈ held)

end Kanban
