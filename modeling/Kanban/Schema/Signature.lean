/-
Operation signatures of the form name(arguments): Type.
-/
import Kanban.Text.Blank
import Kanban.Text.Digits

namespace Kanban

namespace Signature

def isNameStart (c : Char) : Bool :=
  c = '_' || decide ('A' ≤ c ∧ c ≤ 'Z') || decide ('a' ≤ c ∧ c ≤ 'z')

def isNameRest (c : Char) : Bool :=
  isNameStart c || Digits.isDecimal c

/-- What follows a name. -/
def afterName? : List Char → Option (List Char)
  | [] => none
  | c :: rest => if isNameStart c then some (rest.dropWhile isNameRest) else none

def isArgument (c : Char) : Bool :=
  !(c = '(' || c = ')')

/-- What follows an argument text in parentheses, which may be missing. -/
def afterArguments? : List Char → Option (List Char)
  | '(' :: rest =>
      match rest.dropWhile isArgument with
      | ')' :: tail => some tail
      | _ => none
  | cs => some cs

/-- What follows a colon and blanks around it. -/
def afterColon? (cs : List Char) : Option (List Char) :=
  match dropBlank cs with
  | ':' :: rest => some (dropBlank rest)
  | _ => none

/-- The rest without one given character at its front. -/
def dropOne (c : Char) : List Char → List Char
  | [] => []
  | d :: rest => if d = c then rest else d :: rest

/-- Whether a type name ends here: brackets and marks, then only blanks. -/
def endsType (cs : List Char) : Bool :=
  (dropBlank (dropOne '!' (dropOne ']' (dropOne '!' cs)))).isEmpty

/-- Whether characters form a signature. -/
def accepts (cs : List Char) : Bool :=
  match afterName? (dropBlank cs) with
  | none => false
  | some rest =>
      match (afterArguments? (dropBlank rest)).bind afterColon? with
      | none => false
      | some typeText =>
          match afterName? (dropOne '[' typeText) with
          | none => false
          | some tail => endsType tail

/-- The problem with a signature, if there is one. -/
def problem? (text : String) : Option String :=
  if accepts text.toList then none
  else some ("malformed operation signature '" ++ text ++ "'")

end Signature

end Kanban
