/-
Log records, each with a level and a text.
-/

namespace Kanban

/-- How urgent a log record is. -/
inductive Level where
  | debug
  | info
  | warning
  | error
deriving DecidableEq, Repr

def Level.name : Level → String
  | .debug => "DEBUG"
  | .info => "INFO"
  | .warning => "WARNING"
  | .error => "ERROR"

/-- One line of a log. -/
structure LogLine where
  level : Level
  text : String
deriving DecidableEq

end Kanban
