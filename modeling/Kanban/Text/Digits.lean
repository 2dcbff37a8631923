/-
Runs of decimal and hexadecimal digits.
-/

namespace Kanban

namespace Digits

/-- The ASCII decimal digits; other scripts' digits are not among them. -/
def isDecimal (c : Char) : Bool :=
  decide ('0' ≤ c ∧ c ≤ '9')

/-- The number a run of decimal digits stands for. -/
def value (digits : List Char) : Nat :=
  digits.foldl (fun number c => number * 10 + (c.toNat - '0'.toNat)) 0

/-- No more decimal digits are read as one whole number. -/
def limit : Nat := 4300

/-- The number of digits, if there are more than are read. -/
def excess? (digits : List Char) : Option Nat :=
  if limit < digits.length then some digits.length else none

/-- What is said of a number with too many digits. -/
def excessMessage (count : Nat) : String :=
  "Exceeds the limit (" ++ toString limit ++
    " digits) for integer string conversion: value has " ++ toString count ++
    " digits; use sys.set_int_max_str_digits() to increase the limit"

/-- The value of one hexadecimal digit. -/
def hex? (c : Char) : Option Nat :=
  if isDecimal c then some (c.toNat - '0'.toNat)
  else if 'a' ≤ c ∧ c ≤ 'f' then some (c.toNat - 'a'.toNat + 10)
  else if 'A' ≤ c ∧ c ≤ 'F' then some (c.toNat - 'A'.toNat + 10)
  else none

/-- The number a run of hexadecimal digits stands for. -/
def hexValue? (digits : List Char) : Option Nat :=
  digits.foldlM (fun number c => (hex? c).map (number * 16 + ·)) 0

/-- A number as exactly `width` hexadecimal digits. -/
def hexText (width number : Nat) : String :=
  String.ofList ((List.range width).reverse.map fun place =>
    Nat.digitChar (number / Nat.pow 16 place % 16))

/-- Whether a minus sign stands in front, and what follows the sign. -/
def signOf : List Char → Bool × List Char
  | '-' :: rest => (true, rest)
  | '+' :: rest => (false, rest)
  | cs => (false, cs)

/-- The leading run of decimal digits and what follows it. -/
def span (cs : List Char) : List Char × List Char :=
  (cs.takeWhile isDecimal, cs.dropWhile isDecimal)

end Digits

end Kanban
