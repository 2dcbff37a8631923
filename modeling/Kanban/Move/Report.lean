/-
The texts of moves: what is logged, and what is said when one is turned down.
-/
import Kanban.Move.Basic

namespace Kanban

/-- A position that may be absent, as it stands in a log. -/
def positionText : Option (Sibling Binary64) → String
  | some sibling => sibling.position.toText
  | none => "None"

def MoveNotice.line : MoveNotice → LogLine
  | .created kind item =>
      ⟨.debug, "Created " ++ kind.name ++ " " ++ item.id ++ " in " ++ item.container ++
        " at " ++ item.position.toText⟩
  | .planned id placement =>
      ⟨.debug, "Move " ++ id ++ " to " ++ placement.position.toText ++ ". Between " ++
        positionText placement.next ++ " <-> " ++ positionText placement.prev⟩
  | .renumbered kind target count =>
      ⟨.info, "Renormalizing " ++ kind.name ++ "s of '" ++ target ++ "': " ++
        toString count ++ " positions rewritten"⟩
  | .conflicted id attempt attempts conflict =>
      ⟨.warning, "Move of " ++ id ++ " conflicted (attempt " ++ toString attempt ++ "/" ++
        toString attempts ++ "): " ++ conflict.message⟩

def noTargetMessage (id : String) : String :=
  "Move of '" ++ id ++ "' has no target index"

def notFoundMessage (kind : Kind) (id : String) : String :=
  kind.title ++ " '" ++ id ++ "' not found"

def MoveError.message : MoveError → String
  | .noTarget id => noTargetMessage id
  | .otherBoard id source target =>
      "List '" ++ id ++ "' cannot move from board '" ++ source ++ "' to board '" ++
        target ++ "'"
  | .notFound kind id => notFoundMessage kind id
  | .missing id => id
  | .noRoom cause => cause.message
  | .contended id _ attempts _ =>
      "Move of '" ++ id ++ "' still conflicting after " ++ toString attempts ++ " attempts"

end Kanban
