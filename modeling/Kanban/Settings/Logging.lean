/-
How the server logs: the least level that is kept, and the form of the lines.
-/
import Kanban.Settings.Basic
import Kanban.Text.Quoted

namespace Kanban

/-- The form of a log line. -/
inductive LineFormat where
  | text
  | json
deriving DecidableEq, Repr

/-- The pattern of lines of text. -/
def textPattern : String :=
  "%(asctime)s - %(name)s - %(levelname)s - %(message)s"

/-- The pattern that goes by the name BASIC_FORMAT. -/
def basicPattern : String :=
  "%(levelname)s:%(name)s:%(message)s"

def LineFormat.name : LineFormat → String
  | .text => textPattern
  | .json => "json"

/-- The levels by name.  A higher number is more urgent. -/
def levelNumbers : List (String × Nat) :=
  [("CRITICAL", 50), ("FATAL", 50), ("ERROR", 40), ("WARNING", 30), ("WARN", 30),
    ("INFO", 20), ("DEBUG", 10), ("NOTSET", 0)]

/-- The level for a name that is none. -/
def plainLevel : Nat := 20

/-- The level of access lines. -/
def accessLevel : Nat := 30

/-- A name that stands for something other than a level. -/
inductive LevelError where
  | pattern (text : String)
  | table
deriving DecidableEq, Repr

def LevelError.message : LevelError → String
  | .pattern text => "Unknown level: " ++ quoted text
  | .table => ""

/-- Letters beyond ASCII whose capitals are in it: the dotless i, the long and the
sharp s, and joined letters. -/
def joinedLetters : List (Char × String) :=
  [('\u00df', "SS"), ('\u0131', "I"), ('\u017f', "S"), ('\ufb00', "FF"), ('\ufb01', "FI"),
    ('\ufb02', "FL"), ('\ufb03', "FFI"), ('\ufb04', "FFL"), ('\ufb05', "ST"),
    ('\ufb06', "ST")]

/-- The capitals of a letter that can occur in a level's name. -/
def capitals (c : Char) : List Char :=
  match joinedLetters.lookup c with
  | some letters => letters.toList
  | none => [c.toUpper]

/-- The level of a name in any case. -/
def levelOf? (name : String) : Except LevelError Nat :=
  let name := String.ofList (name.toList.flatMap capitals)
  if name = "BASIC_FORMAT" then .error (.pattern basicPattern)
  else if name = "_STYLES" then .error .table
  else .ok ((levelNumbers.lookup name).getD plainLevel)

/-- The logging of a server: one handler, which writes lines in one form. -/
structure LogSetup where
  level : Nat
  handlers : List LineFormat
  access : Nat
deriving DecidableEq, Repr

/-- The logging that settings ask for. -/
def LogSetup.ofSettings? (settings : Settings) : Except LevelError LogSetup :=
  (levelOf? settings.logLevel).map fun level =>
    ⟨level, [if settings.logFormat = "json" then .json else .text], accessLevel⟩

end Kanban
