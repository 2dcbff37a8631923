/-
Whole numbers as doubles.  Up to 2^53 they are exact, so the whole numbers beside
them and the midpoints between them are what they are for numbers.
-/
import Mathlib.Data.List.Basic
import Kanban.Proofs.Binary64.Order

namespace Kanban

namespace Binary64

variable {mag count low high : Nat}

theorem ofUnits_natCast (hmag : Representable mag) :
    ofUnits (mag : Int) = .finite false mag hmag := by
  have hround : roundMagnitude mag 1 = mag := hmag.roundMagnitude_eq
  have hsign : decide ((mag : Int) < 0) = false := decide_eq_false (by omega)
  simp only [ofUnits, round, Int.natAbs_natCast, hround, hmag.1, ↓reduceDIte, hsign]

theorem ofInt_natCast (hcount : count ≤ Nat.pow 2 53) :
    ofInt (count : Int) = .finite false (count * scale) (representable_mul_scale hcount) := by
  rw [ofInt, ← Int.natCast_mul]
  exact ofUnits_natCast _

theorem units?_ofInt (hcount : count ≤ Nat.pow 2 53) :
    (ofInt (count : Int)).units? = some ((count : Int) * scale) := by
  rw [ofInt_natCast hcount, ← Int.natCast_mul]
  rfl

theorem ceil_ofInt (hcount : count ≤ Nat.pow 2 53) :
    (ofInt (count : Int)).ceil = .ok (count : Int) := by
  rw [ofInt_natCast hcount]
  have hscale := scale_pos
  change Except.ok (-(-((count * scale : Nat) : Int) / scale)) = _
  rw [Int.natCast_mul, ← Int.neg_mul, Int.mul_ediv_cancel _ (by omega), Int.neg_neg]

theorem floor_ofInt (hcount : count ≤ Nat.pow 2 53) :
    (ofInt (count : Int)).floor = .ok (count : Int) := by
  rw [ofInt_natCast hcount]
  have hscale := scale_pos
  change Except.ok (((count * scale : Nat) : Int) / scale) = _
  rw [Int.natCast_mul, Int.mul_ediv_cancel _ (by omega)]

/-- What compares equal to a whole number has its value. -/
theorem same_ofInt_iff {x : Binary64} (hcount : count ≤ Nat.pow 2 53) :
    x.same (ofInt (count : Int)) = true ↔ x.units? = some ((count : Int) * scale) := by
  have hrank := rank_ofInt_natCast hcount
  cases x with
  | nan => simp only [same, rank, units?, Bool.false_eq_true, reduceCtorEq]
  | finite negative mag hmag =>
      rw [same_of_rank rfl hrank, decide_eq_true_eq, units?, Option.some.injEq]
  | infinite negative =>
      -- An infinity stands at the limit, which no whole number up to 2^53 reaches.
      have hbelow := (representable_mul_scale hcount).1
      have habs := natAbs_signed negative limit
      rw [same_of_rank rfl hrank, decide_eq_true_eq, ← Int.natCast_mul]
      simp only [units?, reduceCtorEq, iff_false]
      omega

/-- Halving what is counted in twice as many units. -/
theorem roundMagnitude_double (num : Nat) :
    roundMagnitude (2 * num) 2 = roundMagnitude num 1 := by
  have hspacing : spacing (2 * num) 2 = spacing num 1 := by
    rw [spacing, spacing, Nat.mul_div_cancel_left num (by decide), Nat.div_one]
  have hnearest (step : Nat) : nearest (2 * num) (2 * step) = nearest num step := by
    unfold nearest
    rw [Nat.mul_div_mul_left _ _ (by decide), Nat.mul_mod_mul_left]
    dsimp only
    split <;> split <;> omega
  rw [roundMagnitude, roundMagnitude, hspacing, hnearest, Nat.one_mul]

theorem half_double (hmag : Representable mag) (hdouble : Representable (2 * mag)) :
    half (.finite false (2 * mag) hdouble) = .finite false mag hmag := by
  have hround : roundMagnitude (2 * mag) 2 = mag := by
    rw [roundMagnitude_double, hmag.roundMagnitude_eq]
  simp only [half, round, hround, hmag.1, ↓reduceDIte]

theorem representable_double (hcount : count ≤ Nat.pow 2 53) :
    Representable (2 * (count * scale)) := by
  have hpow : Nat.pow 2 (unitShift + 1) = 2 * Nat.pow 2 unitShift := pow_two_add unitShift 1
  have hshift : unitShift + 1 + 53 < width := by unfold unitShift; decide
  rw [scale_eq, Nat.mul_left_comm, ← hpow]
  exact representable_mul_pow hcount hshift

/-- Halfway between two whole numbers whose sum is even stands a whole number. -/
theorem half_add_ofInt (hlow : low ≤ Nat.pow 2 53) (hhigh : high ≤ Nat.pow 2 53)
    (hsum : low + high = 2 * count) (hpos : 0 < count) :
    ((ofInt (low : Int)).add (ofInt (high : Int))).half = ofInt (count : Int) := by
  have hcount : count ≤ Nat.pow 2 53 := by
    generalize Nat.pow 2 53 = bound at hlow hhigh
    omega
  have hunits : ((low * scale : Nat) : Int) + ((high * scale : Nat) : Int) =
      ((2 * (count * scale) : Nat) : Int) := by
    rw [← Int.natCast_add, ← Nat.add_mul, hsum, Nat.mul_assoc]
  have hsome : ((2 * (count * scale) : Nat) : Int) ≠ 0 := by
    have hunits := Nat.mul_pos hpos (Int.natCast_pos.mp scale_pos)
    omega
  rw [ofInt_natCast hlow, ofInt_natCast hhigh, ofInt_natCast hcount]
  simp only [add, signed, Bool.false_eq_true, ↓reduceIte, hunits, hsome]
  rw [ofUnits_natCast (representable_double hcount), half_double]

end Binary64

end Kanban
