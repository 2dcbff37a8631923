/-
The interchange form of doubles: 64 bits, written as 16 hexadecimal digits.
The low 52 bits are the fraction, eleven bits the exponent, the top bit the
sign.  A magnitude of spacing 2^s has exponent field s, plus one once its
leading bit is implicit, so field and fraction are one sum.
-/
import Kanban.Binary64.Basic
import Kanban.Text.Digits

namespace Kanban

namespace Binary64

/-- The 64 bits of a number; every NaN has the same ones. -/
def toBits : Binary64 → Nat
  | .nan => 0x7ff8000000000000
  | .infinite negative => (if negative then Nat.pow 2 63 else 0) + 0x7ff0000000000000
  | .finite negative mag _ =>
      let shift := mag.log2 - 52
      (if negative then Nat.pow 2 63 else 0) + shift * Nat.pow 2 52 + mag / Nat.pow 2 shift

theorem scaled_lt {count shift top : Nat} (hcount : count < Nat.pow 2 53)
    (hshift : 53 + shift ≤ top) : count * Nat.pow 2 shift < Nat.pow 2 top := by
  refine Nat.lt_of_lt_of_le
    (Nat.mul_lt_mul_of_pos_right hcount (Nat.two_pow_pos shift)) ?_
  rw [Nat.pow_eq, Nat.pow_eq, ← Nat.pow_add]
  exact Nat.pow_le_pow_right (by decide) hshift

theorem representable_scaled {count shift : Nat} (hcount : count < Nat.pow 2 53)
    (hshift : shift ≤ 2045) : Representable (count * Nat.pow 2 shift) := by
  have htop : 53 + shift ≤ width := by
    unfold width
    omega
  have hlimit : count * Nat.pow 2 shift < limit := by
    unfold limit
    exact scaled_lt hcount htop
  exact ⟨hlimit, dvd_of_le_two_pow (Nat.le_of_lt hcount) shift⟩

/-- The number that 64 bits stand for. -/
def ofBits (bits : Nat) : Binary64 :=
  let negative := bits / Nat.pow 2 63 % 2 == 1
  let field := bits / Nat.pow 2 52 % 2048
  let fraction := bits % Nat.pow 2 52
  have hfraction : fraction < Nat.pow 2 52 := Nat.mod_lt _ (by decide)
  have hfield : field < 2048 := Nat.mod_lt _ (by decide)
  have hdouble : Nat.pow 2 53 = 2 * Nat.pow 2 52 := rfl
  if htop : field = 2047 then
    if fraction = 0 then .infinite negative else .nan
  else if field = 0 then
    .finite negative (fraction * Nat.pow 2 0) (representable_scaled (by omega) (by omega))
  else
    .finite negative ((Nat.pow 2 52 + fraction) * Nat.pow 2 (field - 1))
      (representable_scaled (by omega) (by omega))

/-- The written form: 16 hexadecimal digits, or the word `nan`. -/
def toHex : Binary64 → String
  | .nan => "nan"
  | x => Digits.hexText 16 x.toBits

/-- Reads what `toHex` writes. -/
def ofHex? (text : String) : Option Binary64 :=
  if text = "nan" then some .nan
  else if text.length = 16 then (Digits.hexValue? text.toList).map ofBits
  else none

end Binary64

end Kanban
