/-
Double-precision numbers as exact values.  A finite double is a sign and a
magnitude counted in units of 2^-1074, the least positive double, so order,
sums and halves are questions about whole numbers.  The main facts say that
rounding always lands on a magnitude a double can hold.
-/

namespace Kanban

namespace Binary64

/-- Units in the number one. -/
def scale : Nat := Nat.pow 2 1074

/-- The number of bits of the greatest magnitude. -/
def width : Nat := 2098

/-- The least magnitude past every finite double: 2^1024, in units. -/
def limit : Nat := Nat.pow 2 width

/-- The magnitudes a double holds lie below the limit and have at most 53
significant bits. -/
def Representable (mag : Nat) : Prop :=
  mag < limit ∧ Nat.pow 2 (mag.log2 - 52) ∣ mag

instance (mag : Nat) : Decidable (Representable mag) :=
  inferInstanceAs (Decidable (mag < limit ∧ Nat.pow 2 (mag.log2 - 52) ∣ mag))

/-- The whole number nearest to `num / den`; a half goes to the even side. -/
def nearest (num den : Nat) : Nat :=
  let floor := num / den
  let rest := num % den
  if 2 * rest < den ∨ (2 * rest = den ∧ floor % 2 = 0) then floor else floor + 1

/-- The distance between neighbouring doubles around `num / den`. -/
def spacing (num den : Nat) : Nat :=
  Nat.pow 2 ((num / den).log2 - 52)

/-- The magnitude of 53 significant bits nearest to `num / den`. -/
def roundMagnitude (num den : Nat) : Nat :=
  nearest num (den * spacing num den) * spacing num den

theorem nearest_le (num den : Nat) : nearest num den ≤ num / den + 1 := by
  unfold nearest
  dsimp only
  split <;> omega

theorem le_nearest (num den : Nat) : num / den ≤ nearest num den := by
  unfold nearest
  dsimp only
  split <;> omega

theorem pow_two_pos (count : Nat) : 0 < Nat.pow 2 count :=
  Nat.two_pow_pos count

theorem div_spacing_lt (num den : Nat) :
    num / (den * spacing num den) < Nat.pow 2 53 := by
  rw [← Nat.div_div_eq_div_mul]
  generalize hq : num / den = quotient
  have hlog : quotient < 2 ^ (quotient.log2 + 1) := Nat.lt_log2_self
  have hpos : 0 < spacing num den := pow_two_pos _
  apply (Nat.div_lt_iff_lt_mul hpos).mpr
  refine Nat.lt_of_lt_of_le hlog ?_
  rw [spacing, hq, Nat.pow_eq, Nat.pow_eq, ← Nat.pow_add]
  exact Nat.pow_le_pow_right (by decide) (by omega)

/-- At most 53 bits times a power of two has at most 53 significant bits. -/
theorem dvd_of_le_two_pow {count : Nat} (hcount : count ≤ Nat.pow 2 53) (shift : Nat) :
    Nat.pow 2 ((count * Nat.pow 2 shift).log2 - 52) ∣ count * Nat.pow 2 shift := by
  simp only [Nat.pow_eq] at hcount ⊢
  rcases Nat.lt_or_eq_of_le hcount with hlt | rfl
  · by_cases hzero : count * 2 ^ shift = 0
    · simp [hzero]
    · have hlog : (count * 2 ^ shift).log2 < 53 + shift := by
        rw [Nat.log2_lt hzero, Nat.pow_add]
        exact Nat.mul_lt_mul_of_pos_right hlt (Nat.two_pow_pos shift)
      exact Nat.dvd_trans (Nat.pow_dvd_pow 2 (by omega)) (Nat.dvd_mul_left _ _)
  · rw [← Nat.pow_add, Nat.log2_two_pow]
    exact Nat.pow_dvd_pow 2 (by omega)

theorem roundMagnitude_dvd (num den : Nat) :
    Nat.pow 2 ((roundMagnitude num den).log2 - 52) ∣ roundMagnitude num den := by
  have hnear := nearest_le num (den * spacing num den)
  have hsmall := div_spacing_lt num den
  exact dvd_of_le_two_pow (by omega) _

end Binary64

/-- A double-precision number.  There is one NaN, and zero has a sign. -/
inductive Binary64 where
  | nan
  | infinite (negative : Bool)
  | finite (negative : Bool) (mag : Nat) (representable : Binary64.Representable mag)
deriving DecidableEq

namespace Binary64

theorem representable_zero : Representable 0 := by
  constructor
  · unfold limit
    exact pow_two_pos width
  · exact Nat.dvd_zero _

/-- Zero of the given sign. -/
def zero (negative : Bool) : Binary64 :=
  .finite negative 0 representable_zero

instance : Inhabited Binary64 := ⟨zero false⟩

/-- The double nearest to `num / den` units, of the given sign.  What rounds
past the last finite double is infinite. -/
def round (negative : Bool) (num den : Nat) : Binary64 :=
  if h : roundMagnitude num den < limit then
    .finite negative (roundMagnitude num den) ⟨h, roundMagnitude_dvd num den⟩
  else .infinite negative

/-- The double nearest to a signed number of units; zero is positive. -/
def ofUnits (units : Int) : Binary64 :=
  round (decide (units < 0)) units.natAbs 1

/-- The double nearest to a whole number. -/
def ofInt (value : Int) : Binary64 :=
  ofUnits (value * scale)

/-- A magnitude with its sign. -/
def signed (negative : Bool) (mag : Nat) : Int :=
  if negative then -(mag : Int) else mag

/-- Where a number stands in the order of all doubles.  Infinities stand at
the limit, the two zeros together, and NaN nowhere. -/
def rank : Binary64 → Option Int
  | .nan => none
  | .infinite negative => some (signed negative limit)
  | .finite negative mag _ => some (signed negative mag)

/-- The exact value in units, for finite numbers only. -/
def units? : Binary64 → Option Int
  | .finite negative mag _ => some (signed negative mag)
  | _ => none

def IsFinite (x : Binary64) : Prop := x.units?.isSome

instance (x : Binary64) : Decidable x.IsFinite :=
  inferInstanceAs (Decidable (x.units?.isSome = true))

/-- Numerically below; NaN is below nothing. -/
def lt (x y : Binary64) : Bool :=
  match x.rank, y.rank with
  | some a, some b => decide (a < b)
  | _, _ => false

/-- Numerically the same; NaN is the same as nothing. -/
def same (x y : Binary64) : Bool :=
  match x.rank, y.rank with
  | some a, some b => decide (a = b)
  | _, _ => false

def neg : Binary64 → Binary64
  | .nan => .nan
  | .infinite negative => .infinite !negative
  | .finite negative mag h => .finite (!negative) mag h

/-- The correctly rounded sum.  Only two negative zeros add up to one. -/
def add : Binary64 → Binary64 → Binary64
  | .nan, _ => .nan
  | _, .nan => .nan
  | .infinite a, .infinite b => if a = b then .infinite a else .nan
  | .infinite a, .finite .. => .infinite a
  | .finite .., .infinite b => .infinite b
  | .finite a m _, .finite b n _ =>
      let sum := signed a m + signed b n
      if sum = 0 then zero (a && b) else ofUnits sum

def sub (x y : Binary64) : Binary64 := x.add y.neg

/-- The correctly rounded half, exact unless a last bit below the least
positive double drops out. -/
def half : Binary64 → Binary64
  | .finite negative mag _ => round negative mag 2
  | other => other

/-- A number that has no neighbouring whole number. -/
inductive NotFinite where
  | infinity
  | nan
deriving DecidableEq, Repr

def NotFinite.message : NotFinite → String
  | .infinity => "cannot convert float infinity to integer"
  | .nan => "cannot convert float NaN to integer"

/-- The exact value in units, or why there is none. -/
def units : Binary64 → Except NotFinite Int
  | .nan => .error .nan
  | .infinite _ => .error .infinity
  | .finite negative mag _ => .ok (signed negative mag)

/-- The greatest whole number that is not above. -/
def floor (x : Binary64) : Except NotFinite Int :=
  x.units.map (· / scale)

/-- The least whole number that is not below. -/
def ceil (x : Binary64) : Except NotFinite Int :=
  x.units.map fun value => -(-value / scale)

/-- The whole number that a double is, if it is one. -/
def whole? (x : Binary64) : Option Int :=
  (x.units?.filter fun value => decide (value % (scale : Int) = 0)).map (· / (scale : Int))

end Binary64

end Kanban
