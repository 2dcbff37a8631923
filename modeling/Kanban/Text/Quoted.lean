/-
Texts in quotes, as messages show them.  Single quotes are used unless the
text has some and has no double ones; what cannot be printed is escaped.
-/
import Kanban.Text.Digits
import Kanban.Text.Unprintable

namespace Kanban

namespace Quoted

/-- Whether a character is printed as it is. -/
def isPrintable (c : Char) : Bool :=
  !isUnprintable c

/-- The quote for a text. -/
def mark (cs : List Char) : Char :=
  if cs.contains '\'' && !cs.contains '"' then '"' else '\''

/-- A code point in the shortest of the three escaped forms. -/
def escapeCode (code : Nat) : List Char :=
  if code < 0x100 then "\\x".toList ++ (Digits.hexText 2 code).toList
  else if code < 0x10000 then "\\u".toList ++ (Digits.hexText 4 code).toList
  else "\\U".toList ++ (Digits.hexText 8 code).toList

def escape (quote c : Char) : List Char :=
  if c = quote ∨ c = '\\' then ['\\', c]
  else if c = '\n' then "\\n".toList
  else if c = '\r' then "\\r".toList
  else if c = '\t' then "\\t".toList
  else if isPrintable c then [c]
  else escapeCode c.toNat

end Quoted

/-- A text in quotes. -/
def quoted (text : String) : String :=
  let cs := text.toList
  let quote := Quoted.mark cs
  String.ofList (quote :: cs.flatMap (Quoted.escape quote) ++ [quote])

end Kanban
