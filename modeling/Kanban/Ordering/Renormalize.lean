/-
Repeated midpoints halve the gap between two entries each time.  When a gap
falls below a threshold, the whole container is renumbered 1, 2, 3, … in
the order it has.
-/
import Kanban.Mapping
import Kanban.Ordering.Sibling

namespace Kanban

/-- The gap below which a container is renumbered unless another is configured:
one millionth. -/
def defaultThreshold : Binary64 :=
  .round false Binary64.scale 1000000

/-- Differences of adjacent positions. -/
def gaps (view : List (Sibling Binary64)) : List Binary64 :=
  view.zipWith (fun a b => b.position.sub a.position) view.tail

/-- The least of a list, from left to right: a later value wins only when it
compares below. -/
def leastOf : List Binary64 → Option Binary64
  | [] => none
  | gap :: rest =>
      some (rest.foldl (fun least other => if other.lt least then other else least) gap)

/-- The smallest gap, absent below two entries. -/
def minGap (view : List (Sibling Binary64)) : Option Binary64 :=
  leastOf (gaps view)

/-- Whether some gap is below the threshold. -/
def needsRenormalization (view : List (Sibling Binary64)) (threshold : Binary64) : Bool :=
  match minGap view with
  | none => false
  | some gap => gap.lt threshold

/-- The new positions that bring a view to 1, 2, 3, …, only for entries whose
position changes.  Of an id that stands twice, the last new position counts. -/
def renormalizeFrom (index : Nat) : List (Sibling Binary64) → Mapping Binary64 →
    Mapping Binary64
  | [], updates => updates
  | entry :: rest, updates =>
      let position := Binary64.ofInt index
      renormalizeFrom (index + 1) rest
        (if entry.position.same position then updates
          else Mapping.set entry.id position updates)

/-- The new position of every entry that does not yet stand at its index,
counted from one. -/
def renormalize (view : List (Sibling Binary64)) : Mapping Binary64 :=
  renormalizeFrom 1 view []

end Kanban
