/-
Writing JSON text.  Entries keep their order, doubles are written with the
fewest digits that read back, and what is no number is written as the word that
reading accepts.
-/
import Kanban.Text.Digits
import Kanban.Value

namespace Kanban

namespace Json

/-- A character inside quotes. -/
def escaped (c : Char) : String :=
  if c = '"' then "\\\""
  else if c = '\\' then "\\\\"
  else if c < ' ' then "\\u" ++ Digits.hexText 4 c.toNat
  else String.ofList [c]

/-- A text between quotes. -/
def writeText (text : String) : String :=
  "\"" ++ String.join (text.toList.map escaped) ++ "\""

def writeDouble : Binary64 → String
  | .nan => "NaN"
  | .infinite negative => if negative then "-Infinity" else "Infinity"
  | number => number.toText

/-- The text that a key is written as. -/
def keyText : Key → String
  | .null => "null"
  | .bool value => if value then "true" else "false"
  | .int value => toString value
  | .float value => writeDouble value
  | .text value => value

mutual

/-- The text of a value, without blanks. -/
def write : Value → String
  | .null => "null"
  | .bool value => if value then "true" else "false"
  | .int value => toString value
  | .float value => writeDouble value
  | .text value => writeText value
  | .list items => "[" ++ ",".intercalate (writeItems items) ++ "]"
  | .map entries => "\x7b" ++ ",".intercalate (writeEntries entries) ++ "\x7d"

def writeItems : List Value → List String
  | [] => []
  | item :: rest => write item :: writeItems rest

def writeEntries : List (Key × Value) → List String
  | [] => []
  | (key, value) :: rest => (writeText (keyText key) ++ ":" ++ write value) :: writeEntries rest

end

end Json

end Kanban
