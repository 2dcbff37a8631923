/-
Numbers and texts that are given from outside.  A whole number may be given as
a text, a boolean or a double; a double only as a text.
-/
import Kanban.Binary64.Literal
import Kanban.Input.Problem
import Kanban.Text.Blank
import Kanban.Text.Split
import Kanban.Value

namespace Kanban

namespace Input

/-- The blank characters but for the four information separators. -/
def isSpace (c : Char) : Bool :=
  isBlank c && !decide (0x1c ≤ c.toNat ∧ c.toNat ≤ 0x1f)

/-- Characters without the spaces on either side. -/
def trim (cs : List Char) : List Char :=
  ((cs.dropWhile isSpace).reverse.dropWhile isSpace).reverse

/-- Characters without underscores, if none stands at an end or next to
another. -/
def ungrouped? (cs : List Char) : Option (List Char) :=
  let groups := splitChars '_' cs
  if groups.all fun group => !group.isEmpty then some groups.flatten else none

/-- What is left of zeros and underscores in front of a number.  They may also
stand before its minus sign; a zero is kept before a point or at the end. -/
def afterZeros (last : Char) : List Char → Option (List Char)
  | [] => some [last]
  | c :: rest =>
      if c = '0' || c = '_' then afterZeros c rest
      else if c = '-' || Digits.isDecimal c then some (c :: rest)
      else if c = '.' then some (last :: c :: rest)
      else none

/-- A number without zeros in front. -/
def withoutZeros? : List Char → Option (List Char)
  | '0' :: rest => afterZeros '0' rest
  | c :: rest => if c = '-' || Digits.isDecimal c then some (c :: rest) else none
  | [] => none

/-- A number without a point that only zeros follow, at least one. -/
def withoutFraction (cs : List Char) : List Char :=
  match cs.reverse.dropWhile (· = '0') with
  | '.' :: whole => if cs.reverse.head? = some '0' then whole.reverse else cs
  | _ => cs

/-- A whole number in its only form: no zero in front of other digits.  Its sign
counts among the characters that are read. -/
def bareWhole (cs : List Char) : Except ProblemKind Int :=
  let (negative, digits) :=
    match cs with
    | '-' :: rest => (true, rest)
    | _ => (false, cs)
  let (run, rest) := Digits.span digits
  if run.isEmpty || (run.head? = some '0' && decide (1 < run.length)) then .error .notNumeral
  else if Digits.limit < run.length + (if negative then 1 else 0) then .error .tooLarge
  else if !rest.isEmpty then .error .notNumeral
  else
    let size : Int := Digits.value run
    .ok (if negative then -size else size)

/-- A text as a whole number in decimal notation: a sign, zeros, digits that
underscores may group, and after a point only zeros. -/
def wholeOfText (text : String) : Except ProblemKind Int :=
  let unsigned :=
    match trim text.toList with
    | '+' :: '-' :: _ => []
    | '+' :: rest => rest
    | cs => cs
  match (withoutZeros? unsigned).map withoutFraction with
  | none => .error .notNumeral
  | some cs => bareWhole ((ungrouped? cs).getD cs)

/-- The whole numbers that a double is taken for lie strictly within 2^63. -/
def wholeLimit : Nat := Nat.pow 2 63

def wholeOfDouble : Binary64 → Except ProblemKind Int
  | .nan => .error .notFinite
  | .infinite _ => .error .notFinite
  | .finite negative mag _ =>
      if mag % Binary64.scale ≠ 0 then .error .fractional
      else if mag < wholeLimit * Binary64.scale then
        .ok (Binary64.signed negative (mag / Binary64.scale))
      else .error .tooLarge

def whole : Value → Except ProblemKind Int
  | .int value => .ok value
  | .bool value => .ok (if value then 1 else 0)
  | .float value => wholeOfDouble value
  | .text value => wholeOfText value
  | _ => .error .notWhole

def text : Value → Except ProblemKind String
  | .text value => .ok value
  | _ => .error .notText

/-- A text of at least one character. -/
def nonEmptyText (value : Value) : Except ProblemKind String := do
  let value ← text value
  if value = "" then .error .tooShort else .ok value

/-- A value that null stands for too. -/
def orNull {A : Type} (read : Value → Except ProblemKind A) (value : Value) :
    Except ProblemKind (Option A) :=
  if value = .null then .ok none else (read value).map some

/-- A double given as a text.  Spaces may surround it, or underscores group its
characters. -/
def doubleOfText (text : String) : Except ProblemKind Binary64 :=
  let cs := text.toList
  match (Binary64.ofLiteral? (trim cs)).or ((ungrouped? cs).bind Binary64.ofLiteral?) with
  | some number => .ok number
  | none => .error .notDecimal

end Input

end Kanban
