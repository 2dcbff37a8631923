/-
The order of doubles.  A difference is positive only when its terms are in
order, whole numbers up to 2^53 are exact, and the whole numbers beside a finite
double are finite and stay on their side of it.
-/
import Mathlib.Data.List.Basic
import Kanban.Proofs.Binary64.Rounding

namespace Kanban

namespace Binary64

theorem exists_rank {x : Binary64} (hx : x ≠ .nan) : ∃ place, x.rank = some place := by
  cases x with
  | nan => exact absurd rfl hx
  | infinite negative => exact ⟨_, rfl⟩
  | finite negative mag hmag => exact ⟨_, rfl⟩

theorem lt_of_rank {x y : Binary64} {a b : Int} (hx : x.rank = some a)
    (hy : y.rank = some b) : x.lt y = decide (a < b) := by
  simp [lt, hx, hy]

theorem same_of_rank {x y : Binary64} {a b : Int} (hx : x.rank = some a)
    (hy : y.rank = some b) : x.same y = decide (a = b) := by
  simp [same, hx, hy]

theorem lt_iff {x y : Binary64} :
    x.lt y = true ↔ ∃ a b, x.rank = some a ∧ y.rank = some b ∧ a < b := by
  unfold lt
  cases x.rank <;> cases y.rank <;> simp

theorem same_iff {x y : Binary64} :
    x.same y = true ↔ ∃ place, x.rank = some place ∧ y.rank = some place := by
  unfold same
  cases x.rank <;> cases y.rank <;> simp [eq_comm]

theorem lt_trans {x y z : Binary64} (hxy : x.lt y = true) (hyz : y.lt z = true) :
    x.lt z = true := by
  obtain ⟨a, b, ha, hb, hab⟩ := lt_iff.mp hxy
  obtain ⟨b', c, hb', hc, hbc⟩ := lt_iff.mp hyz
  rw [hb] at hb'
  obtain rfl := Option.some.inj hb'
  exact lt_iff.mpr ⟨a, c, ha, hc, Int.lt_trans hab hbc⟩

theorem IsFinite.ne_nan {x : Binary64} (hx : x.IsFinite) : x ≠ .nan := by
  rintro rfl
  cases hx

theorem IsFinite.exists_eq {x : Binary64} (hx : x.IsFinite) :
    ∃ negative mag hmag, x = .finite negative mag hmag := by
  cases x with
  | finite negative mag hmag => exact ⟨negative, mag, hmag, rfl⟩
  | nan => cases hx
  | infinite negative => cases hx

theorem signed_neg (negative : Bool) (mag : Nat) :
    signed (!negative) mag = -signed negative mag := by
  cases negative <;> simp [signed]

theorem signed_true_nonpos (mag : Nat) : signed true mag ≤ 0 := by
  simp [signed]

theorem natAbs_signed (negative : Bool) (mag : Nat) : (signed negative mag).natAbs = mag := by
  cases negative <;> simp [signed]

theorem signed_lt_limit {mag : Nat} (hmag : mag < limit) (negative : Bool) :
    -(limit : Int) < signed negative mag ∧ signed negative mag < limit := by
  cases negative <;> simp only [signed, Bool.false_eq_true, ↓reduceIte] <;> omega

theorem natAbs_rank_le {x : Binary64} {place : Int} (hplace : x.rank = some place) :
    place.natAbs ≤ limit := by
  cases x with
  | nan => cases hplace
  | infinite negative =>
      obtain rfl := Option.some.inj hplace
      exact Nat.le_of_eq (natAbs_signed negative limit)
  | finite negative mag hmag =>
      obtain rfl := Option.some.inj hplace
      rw [natAbs_signed]
      exact Nat.le_of_lt hmag.1

theorem isFinite_of_rank {x : Binary64} {place : Int} (hplace : x.rank = some place)
    (hlimit : place.natAbs < limit) : x.IsFinite := by
  cases x with
  | nan => cases hplace
  | infinite negative =>
      obtain rfl := Option.some.inj hplace
      rw [natAbs_signed] at hlimit
      exact absurd hlimit (Nat.lt_irrefl limit)
  | finite negative mag hmag => exact rfl

theorem signed_inj {a b : Bool} {m n : Nat} (heq : signed a m = signed b n) :
    m = n ∧ (n ≠ 0 → a = b) := by
  have hmag : m = n := by rw [← natAbs_signed a m, heq, natAbs_signed]
  subst hmag
  refine ⟨rfl, fun hpos => ?_⟩
  cases a <;> cases b <;> simp [signed] at heq ⊢ <;> omega

/-- Doubles that compare equal are the same, unless they are zeros. -/
theorem eq_of_same {x y : Binary64} (hsame : x.same y = true) (hzero : y.rank ≠ some 0) :
    x = y := by
  obtain ⟨place, hx, hy⟩ := same_iff.mp hsame
  have hlimit : limit ≠ 0 := by
    unfold limit
    exact Nat.ne_of_gt (pow_two_pos width)
  cases x with
  | nan => cases hx
  | infinite a =>
      obtain rfl := Option.some.inj hx
      cases y with
      | nan => cases hy
      | infinite b => rw [(signed_inj (Option.some.inj hy)).2 hlimit]
      | finite b n hn => exact absurd (signed_inj (Option.some.inj hy)).1 (Nat.ne_of_lt hn.1)
  | finite a m hm =>
      obtain rfl := Option.some.inj hx
      cases y with
      | nan => cases hy
      | infinite b =>
          exact absurd (signed_inj (Option.some.inj hy)).1.symm (Nat.ne_of_lt hm.1)
      | finite b n hn =>
          obtain ⟨rfl, hsign⟩ := signed_inj (Option.some.inj hy)
          rw [hsign fun hm => hzero (by rw [hy]; simp [signed, hm])]

/-- What lies between two doubles is finite. -/
theorem isFinite_of_between {x y z : Binary64} (hxy : x.lt y = true) (hyz : y.lt z = true) :
    y.IsFinite := by
  obtain ⟨low, place, hlow, hplace, hbelow⟩ := lt_iff.mp hxy
  obtain ⟨place', high, hplace', hhigh, habove⟩ := lt_iff.mp hyz
  rw [hplace] at hplace'
  obtain rfl := Option.some.inj hplace'
  have hbottom := natAbs_rank_le hlow
  have htop := natAbs_rank_le hhigh
  exact isFinite_of_rank hplace (by omega)

theorem round_ne_nan (negative : Bool) (num den : Nat) : round negative num den ≠ .nan := by
  unfold round
  split <;> simp

theorem rank_round (negative : Bool) (num : Nat) :
    (round negative num 1).rank =
      some (signed negative (min (roundMagnitude num 1) limit)) := by
  unfold round
  split
  · rename_i hlt
    simp only [rank, Nat.min_eq_left (Nat.le_of_lt hlt)]
  · rename_i hge
    simp only [rank, Nat.min_eq_right (Nat.le_of_not_lt hge)]

theorem rank_ofUnits (units : Int) :
    (ofUnits units).rank =
      some (signed (decide (units < 0)) (min (roundMagnitude units.natAbs 1) limit)) :=
  rank_round _ _

/-- Rounding a number of units does not fall below a double that is no
greater. -/
theorem le_rank_ofUnits {negative : Bool} {mag : Nat} (hmag : Representable mag)
    {units : Int} (hle : signed negative mag ≤ units) :
    ∃ place, (ofUnits units).rank = some place ∧ signed negative mag ≤ place := by
  refine ⟨_, rank_ofUnits units, ?_⟩
  have hlimit := hmag.1
  cases negative with
  | false =>
      simp only [signed, Bool.false_eq_true, ↓reduceIte] at hle ⊢
      have hnum : mag ≤ units.natAbs := by omega
      have hround := hmag.le_roundMagnitude hnum
      rw [if_neg (by simp; omega)]
      omega
  | true =>
      simp only [signed, ↓reduceIte] at hle ⊢
      by_cases hneg : units < 0
      · have hnum : units.natAbs ≤ mag := by omega
        have hround := hmag.roundMagnitude_le hnum
        simp only [hneg, decide_true, ↓reduceIte]
        omega
      · simp only [hneg, decide_false, Bool.false_eq_true, ↓reduceIte]
        omega

theorem ofUnits_nonpos {units : Int} (hunits : units < 0) :
    ∃ place, (ofUnits units).rank = some place ∧ place ≤ 0 := by
  refine ⟨_, rank_ofUnits units, ?_⟩
  rw [decide_eq_true hunits]
  exact signed_true_nonpos _

theorem isFinite_ofUnits {units : Int}
    (hunits : 2 * units.natAbs + Nat.pow 2 topShift < 2 * limit) :
    (ofUnits units).IsFinite := by
  unfold ofUnits round
  rw [dif_pos (roundMagnitude_lt_limit hunits)]
  exact rfl

theorem lt_infinite {x : Binary64} (hx : x.IsFinite) : x.lt (.infinite false) = true := by
  obtain ⟨negative, mag, hmag, rfl⟩ := hx.exists_eq
  rw [lt_of_rank rfl rfl]
  exact decide_eq_true (signed_lt_limit hmag.1 negative).2

theorem infinite_lt {x : Binary64} (hx : x.IsFinite) : (infinite true).lt x = true := by
  obtain ⟨negative, mag, hmag, rfl⟩ := hx.exists_eq
  rw [lt_of_rank rfl rfl]
  exact decide_eq_true (signed_lt_limit hmag.1 negative).1

theorem sub_ne_nan {x y : Binary64} (hx : x ≠ .nan) (hy : y ≠ .nan)
    (hfinite : x.IsFinite ∨ y.IsFinite) : y.sub x ≠ .nan := by
  cases x with
  | nan => exact absurd rfl hx
  | infinite a =>
      cases y with
      | nan => exact absurd rfl hy
      | infinite b => rcases hfinite with h | h <;> cases h
      | finite b n hn => simp [sub, neg, add]
  | finite a m hm =>
      cases y with
      | nan => exact absurd rfl hy
      | infinite b => simp [sub, neg, add]
      | finite b n hn =>
          simp only [sub, neg, add]
          split
          · simp [zero]
          · exact round_ne_nan _ _ _

/-- A difference that is no smaller than a positive number has its terms in
order. -/
theorem lt_of_not_sub_lt {x y least : Binary64} (hx : x ≠ .nan) (hy : y ≠ .nan)
    (hfinite : x.IsFinite ∨ y.IsFinite) (hleast : (zero false).lt least = true)
    (hgap : (y.sub x).lt least = false) : x.lt y = true := by
  obtain ⟨zeroPlace, top, hzero, htop, hpos⟩ := lt_iff.mp hleast
  obtain rfl : 0 = zeroPlace := Option.some.inj hzero
  -- Were the difference not positive, it would lie below `least`.
  have hbelow (gap : Binary64) (place : Int) (hplace : gap.rank = some place)
      (hnonpos : place ≤ 0) : gap.lt least = true :=
    lt_iff.mpr ⟨place, top, hplace, htop, by omega⟩
  cases x with
  | nan => exact absurd rfl hx
  | infinite a =>
      cases y with
      | nan => exact absurd rfl hy
      | infinite b => rcases hfinite with h | h <;> cases h
      | finite b n hn =>
          cases a with
          | true => exact infinite_lt rfl
          | false =>
              have hfar := hbelow (.infinite true) _ rfl (signed_true_nonpos _)
              simp [sub, neg, add, hfar] at hgap
  | finite a m hm =>
      cases y with
      | nan => exact absurd rfl hy
      | infinite b =>
          cases b with
          | false => exact lt_infinite rfl
          | true =>
              have hfar := hbelow (.infinite true) _ rfl (signed_true_nonpos _)
              simp [sub, neg, add, hfar] at hgap
      | finite b n hn =>
          rw [lt_of_rank rfl rfl, decide_eq_true_eq]
          simp only [sub, neg, add, signed_neg] at hgap
          by_contra hge
          split at hgap
          · rw [hbelow _ (signed _ 0) rfl (by simp [signed])] at hgap
            cases hgap
          · have hunits : signed b n + -signed a m < 0 := by omega
            obtain ⟨place, hplace, hnonpos⟩ := ofUnits_nonpos hunits
            rw [hbelow _ place hplace hnonpos] at hgap
            cases hgap

theorem representable_mul_pow {count shift : Nat} (hcount : count ≤ Nat.pow 2 53)
    (hshift : shift + 53 < width) : Representable (count * Nat.pow 2 shift) := by
  refine ⟨?_, dvd_of_le_two_pow hcount shift⟩
  refine Nat.lt_of_le_of_lt (Nat.mul_le_mul_right _ hcount) ?_
  rw [← pow_two_add]
  unfold limit
  exact pow_two_lt hshift

/-- One is 2 to this power in units. -/
@[irreducible]
def unitShift : Nat := 1074

theorem scale_eq : scale = Nat.pow 2 unitShift :=
  congrArg (Nat.pow 2) (by unfold unitShift; rfl)

theorem scale_pos : 0 < (scale : Int) := by
  rw [scale_eq]
  exact Int.natCast_pos.mpr (pow_two_pos unitShift)

theorem representable_mul_scale {count : Nat} (hcount : count ≤ Nat.pow 2 53) :
    Representable (count * scale) := by
  rw [scale_eq]
  exact representable_mul_pow hcount (by unfold unitShift; decide)

theorem signed_natAbs (units : Int) : signed (decide (units < 0)) units.natAbs = units := by
  by_cases hneg : units < 0
  · simp only [signed, hneg, decide_true, ↓reduceIte]
    omega
  · simp only [signed, hneg, decide_false, Bool.false_eq_true, ↓reduceIte]
    omega

/-- Whole numbers up to 2^53 in magnitude are exact. -/
theorem rank_ofInt {whole : Int} (hwhole : whole.natAbs ≤ Nat.pow 2 53) :
    (ofInt whole).rank = some (whole * scale) := by
  have hmag := representable_mul_scale hwhole
  have hunits : (whole * scale).natAbs = whole.natAbs * scale := by
    rw [Int.natAbs_mul, Int.natAbs_natCast]
  have hlimit := Nat.min_eq_left (Nat.le_of_lt hmag.1)
  rw [← hunits] at hmag hlimit
  rw [ofInt, rank_ofUnits, hmag.roundMagnitude_eq, hlimit]
  exact congrArg some (signed_natAbs _)

theorem rank_ofInt_natCast {count : Nat} (hcount : count ≤ Nat.pow 2 53) :
    (ofInt count).rank = some ((count : Int) * scale) :=
  rank_ofInt hcount

/-- A positive whole number is not zero as a double, however it is rounded. -/
theorem rank_ofInt_ne_zero {count : Nat} (hcount : 0 < count) :
    (ofInt count).rank ≠ some 0 := by
  have hone : Representable (1 * scale) := representable_mul_scale Nat.one_le_two_pow
  rw [Nat.one_mul] at hone
  have hle : signed false scale ≤ (count : Int) * scale := by
    rw [← Int.natCast_mul]
    exact Int.ofNat_le.mpr (Nat.le_mul_of_pos_left scale hcount)
  obtain ⟨place, hplace, hpos⟩ := le_rank_ofUnits hone hle
  rw [ofInt, hplace]
  intro hzero
  rw [Option.some.inj hzero, signed, if_neg Bool.false_ne_true] at hpos
  exact absurd hpos (Int.not_le.mpr scale_pos)

theorem isFinite_of_rank_count {x : Binary64} {count : Nat} (hcount : count ≤ Nat.pow 2 53)
    (hrank : x.rank = some ((count : Int) * scale)) : x.IsFinite := by
  refine isFinite_of_rank hrank ?_
  rw [Int.natAbs_mul, Int.natAbs_natCast, Int.natAbs_natCast]
  exact (representable_mul_scale hcount).1

theorem four_scale_lt : 4 * scale < Nat.pow 2 topShift := by
  have hpow : Nat.pow 2 (unitShift + 2) = 4 * Nat.pow 2 unitShift := pow_two_add unitShift 2
  rw [scale_eq, ← hpow]
  exact pow_two_lt (by unfold unitShift topShift; decide)

/-- A whole number within two of a finite double is finite. -/
theorem isFinite_ofInt {whole : Int} {mag : Nat} (hmag : Representable mag)
    (hnear : (whole * scale).natAbs ≤ mag + 2 * scale) : (ofInt whole).IsFinite := by
  have hroom := hmag.add_le_limit
  have hscale := four_scale_lt
  exact isFinite_ofUnits (by omega)

theorem ceil_bounds (negative : Bool) {mag : Nat} (hmag : Representable mag) :
    ∃ whole, ceil (.finite negative mag hmag) = .ok whole ∧
      signed negative mag ≤ (whole + 1) * scale ∧
      ((whole + 1) * scale).natAbs ≤ mag + 2 * scale := by
  have hscale := scale_pos
  have hsplit := Int.ediv_mul_add_emod (-signed negative mag) scale
  have hlow := Int.emod_nonneg (-signed negative mag) (by omega : (scale : Int) ≠ 0)
  have hhigh := Int.emod_lt_of_pos (-signed negative mag) hscale
  have hmagnitude := natAbs_signed negative mag
  refine ⟨-(-signed negative mag / scale), rfl, ?_⟩
  rw [Int.add_mul, Int.neg_mul]
  omega

theorem floor_bounds (negative : Bool) {mag : Nat} (hmag : Representable mag) :
    ∃ whole, floor (.finite negative mag hmag) = .ok whole ∧
      ((whole - 1) * scale).natAbs ≤ mag + 2 * scale := by
  have hscale := scale_pos
  have hsplit := Int.ediv_mul_add_emod (signed negative mag) scale
  have hlow := Int.emod_nonneg (signed negative mag) (by omega : (scale : Int) ≠ 0)
  have hhigh := Int.emod_lt_of_pos (signed negative mag) hscale
  have hmagnitude := natAbs_signed negative mag
  refine ⟨signed negative mag / scale, rfl, ?_⟩
  rw [Int.sub_mul]
  omega

theorem half_add_ne_nan {x y : Binary64} (hx : x.IsFinite) (hy : y.IsFinite) :
    (x.add y).half ≠ .nan := by
  obtain ⟨a, m, hm, rfl⟩ := hx.exists_eq
  obtain ⟨b, n, hn, rfl⟩ := hy.exists_eq
  have hsum : Binary64.add (.finite a m hm) (.finite b n hn) ≠ .nan := by
    simp only [add]
    split
    · simp [zero]
    · exact round_ne_nan _ _ _
  generalize Binary64.add (.finite a m hm) (.finite b n hn) = sum at hsum
  cases sum with
  | nan => exact absurd rfl hsum
  | infinite negative => simp [half]
  | finite negative mag hmag => exact round_ne_nan _ _ _

end Binary64

end Kanban
