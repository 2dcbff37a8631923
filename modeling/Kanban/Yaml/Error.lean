/-
Why a text is no YAML document that can be held.
-/
import Kanban.Text.Digits
import Kanban.Text.Quoted
import Kanban.Yaml.Timestamp

namespace Kanban

inductive YamlError where
  /-- The text is not well formed, or stands for nothing. -/
  | malformed
  /-- An escape names no character. -/
  | noCharacter
  /-- An escape gives a number beyond all that are tried as characters. -/
  | noCode
  /-- What should be a whole number in a base is none. -/
  | noWhole (base : Nat) (text : String)
  /-- A whole number has more digits than are read. -/
  | tooLong (digits : Nat)
  /-- What should be a number with a point is none. -/
  | noDouble (text : String)
  /-- What should be a number is empty. -/
  | noNumber
  /-- What should be a boolean is none. -/
  | noBool (text : String)
  /-- What should be a moment is none. -/
  | noTimestamp
  /-- What should be a moment is a mapping that a text stands for. -/
  | mappedTimestamp
  /-- A moment lies outside the calendar. -/
  | badTimestamp (cause : TimestampError)
deriving DecidableEq, Repr

/-- How much of a text that is no whole number is shown, with its quotes. -/
def shownLength : Nat := 200

def YamlError.message : YamlError → String
  | .malformed | .noNumber | .noTimestamp | .mappedTimestamp => ""
  | .noCharacter => "chr() arg not in range(0x110000)"
  | .noCode => "Python int too large to convert to C int"
  | .noWhole base text =>
      "invalid literal for int() with base " ++ toString base ++ ": " ++
        String.ofList ((quoted text).toList.take shownLength)
  | .tooLong digits => Digits.excessMessage digits
  | .noDouble text => "could not convert string to float: " ++ quoted text
  | .noBool text => text
  | .badTimestamp cause => cause.message

end Kanban
