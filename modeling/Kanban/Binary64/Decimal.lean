/-
Decimal text of doubles, in both directions.  Reading rounds the exact
decimal once.  Writing takes the fewest digits that read back to the same
number and, among those, the ones nearest to it.
-/
import Kanban.Binary64.Basic

namespace Kanban

namespace Binary64

/-- The double nearest to `digits * 10 ^ exponent`.  Magnitudes far outside
the range are settled by their number of digits alone. -/
def ofDecimal (negative : Bool) (digits : Nat) (exponent : Int) : Binary64 :=
  let size := (Nat.toDigits 10 digits).length + exponent
  if digits = 0 ∨ size < -330 then zero negative
  else if 310 < size then .infinite negative
  else
    match exponent with
    | .ofNat up => round negative (digits * Nat.pow 10 up * scale) 1
    | .negSucc down => round negative (digits * scale) (Nat.pow 10 (down + 1))

/-- A decimal number without leading or trailing zeros: the digits `digits`
with the point after the first `point` of them. -/
structure Decimal where
  digits : Nat
  point : Int
deriving DecidableEq, Repr

/-- The exponent of ten just above a positive magnitude: the number of digits
before the point, or minus the number of zeros right after it. -/
def pointOf (mag : Nat) : Int :=
  if scale ≤ mag then (Nat.toDigits 10 (mag / scale)).length
  else
    match (List.range 330).find? fun zeros => scale ≤ mag * Nat.pow 10 (zeros + 1) with
    | some zeros => -zeros
    | none => 0

/-- The fraction `mag / scale * 10 ^ places`, as numerator and denominator. -/
def scaled (mag : Nat) : Int → Nat × Nat
  | .ofNat up => (mag * Nat.pow 10 up, scale)
  | .negSucc down => (mag, scale * Nat.pow 10 (down + 1))

/-- The nearest point of the grid of `count` digits that reads back as the
given number, if one of its two neighbours there does. -/
def onGrid? (negative : Bool) (mag : Nat) (count : Nat) : Option Decimal :=
  let point := pointOf mag
  let (num, den) := scaled mag (count - point)
  let below := num / den
  let rest := num % den
  let back (digits : Nat) : Bool :=
    (ofDecimal negative digits (point - count)).rank = some (signed negative mag)
  let order :=
    if 2 * rest < den ∨ (2 * rest = den ∧ below % 2 = 0) then [below, below + 1]
    else [below + 1, below]
  (order.find? back).map fun digits =>
    ⟨digits, point + (Nat.toDigits 10 digits).length - count⟩

/-- The fewest digits that read back; seventeen always do. -/
def shortest (negative : Bool) (mag : Nat) : Decimal :=
  ((List.range 17).findSome? fun count => onGrid? negative mag (count + 1)).getD
    ⟨mag, pointOf mag⟩

/-- The digits of a decimal, without the zeros at its end. -/
def Decimal.figures (decimal : Decimal) : List Char :=
  ((Nat.toDigits 10 decimal.digits).reverse.dropWhile (· = '0')).reverse

/-- How a number is written: in positional notation while the point stands
after place `least` and not past place `most`, else with an exponent of at
least `width` digits. -/
structure DecimalStyle where
  least : Int
  most : Int
  width : Nat

/-- Positions are written out between 0.0001 and 10^16, always with a
fraction, and with a signed exponent of two digits beyond. -/
def plainStyle : DecimalStyle := ⟨-3, 16, 2⟩

/-- Digits padded with leading zeros. -/
def padded (width value : Nat) : String :=
  let text := toString value
  String.ofList (List.replicate (width - text.length) '0') ++ text

def DecimalStyle.write (style : DecimalStyle) (figures : List Char) (point : Int) :
    String :=
  let zeros (count : Int) := List.replicate count.toNat '0'
  if style.least ≤ point ∧ point ≤ style.most then
    let whole := figures.take point.toNat ++ zeros (point - figures.length)
    let rest := zeros (-point) ++ figures.drop point.toNat
    let orZero (part : List Char) := if part.isEmpty then ['0'] else part
    String.ofList (orZero whole ++ '.' :: orZero rest)
  else
    let exponent := point - 1
    let mantissa := figures.take 1 ++
      (if 1 < figures.length then '.' :: figures.drop 1 else [])
    String.ofList mantissa ++ (if exponent < 0 then "e-" else "e+") ++
      padded style.width exponent.natAbs

/-- The decimal text of a number. -/
def toText : Binary64 → String
  | .nan => "nan"
  | .infinite negative => if negative then "-inf" else "inf"
  | .finite negative mag _ =>
      let sign := if negative then "-" else ""
      if mag = 0 then sign ++ "0.0"
      else
        let decimal := shortest negative mag
        sign ++ plainStyle.write decimal.figures decimal.point

end Binary64

end Kanban
