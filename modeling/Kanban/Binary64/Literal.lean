/-
Doubles in the notation of people: digits with at most one point among them, a
power of ten, and the words for infinity and for what is no number.
-/
import Kanban.Binary64.Decimal
import Kanban.Text.Digits
import Kanban.Text.Split

namespace Kanban

namespace Binary64

/-- The value of decimal digits, at least one. -/
def natural? (cs : List Char) : Option Nat :=
  if !cs.isEmpty && cs.all Digits.isDecimal then some (Digits.value cs) else none

/-- The exponent of a number with a power of ten. -/
def exponent? : List Char → Option Int
  | [] => some 0
  | mark :: rest =>
      if mark = 'e' || mark = 'E' then
        let (negative, digits) := Digits.signOf rest
        (natural? digits).map fun size => if negative then -(size : Int) else size
      else none

/-- A number in decimal notation without its sign. -/
def unsigned? (negative : Bool) (cs : List Char) : Option Binary64 :=
  let isPart (c : Char) : Bool := Digits.isDecimal c || c = '.'
  match splitChars '.' (cs.takeWhile isPart), exponent? (cs.dropWhile isPart) with
  | whole :: places, some exponent =>
      if places.length ≤ 1 then
        (natural? (whole ++ places.flatten)).map fun digits =>
          ofDecimal negative digits (exponent - places.flatten.length)
      else none
  | _, _ => none

/-- The words that stand for numbers, in any case. -/
def word? (negative : Bool) (cs : List Char) : Option Binary64 :=
  [("inf", infinite negative), ("infinity", infinite negative), ("nan", nan)].lookup
    (String.ofList (cs.map Char.toLower))

/-- The number that characters write down, with or without a sign. -/
def ofLiteral? (cs : List Char) : Option Binary64 :=
  let (negative, rest) := Digits.signOf cs
  (unsigned? negative rest).or (word? negative rest)

end Binary64

end Kanban
