/-
Differences of doubles.  Rounding keeps order, so a difference does not shrink
when its terms move apart, and terms that lie one apart differ by at least one.
Below 2^53 in magnitude a whole number is exact, and nothing else rounds to it.
-/
import Kanban.Proofs.Binary64.Order

namespace Kanban

namespace Binary64

/-- Numerically not above; NaN is above and below nothing. -/
def le (x y : Binary64) : Bool :=
  x.lt y || x.same y

/-- The lesser of two numbers, the first of equal ones. -/
def lesser (x y : Binary64) : Binary64 :=
  if y.lt x then y else x

variable {x y z least : Binary64} {a b : Int}

theorem le_iff : x.le y = true ↔ ∃ a b, x.rank = some a ∧ y.rank = some b ∧ a ≤ b := by
  unfold le lt same
  cases x.rank <;> cases y.rank <;> simp [Int.le_iff_lt_or_eq]

theorem le_of_rank (hx : x.rank = some a) (hy : y.rank = some b) (hle : a ≤ b) :
    x.le y = true :=
  le_iff.mpr ⟨a, b, hx, hy, hle⟩

theorem le_trans (hxy : x.le y = true) (hyz : y.le z = true) : x.le z = true := by
  obtain ⟨a, b, ha, hb, hab⟩ := le_iff.mp hxy
  obtain ⟨b', c, hb', hc, hbc⟩ := le_iff.mp hyz
  rw [hb] at hb'
  obtain rfl := Option.some.inj hb'
  exact le_of_rank ha hc (Int.le_trans hab hbc)

theorem le_of_lt (hlt : x.lt y = true) : x.le y = true := by
  obtain ⟨a, b, ha, hb, hab⟩ := lt_iff.mp hlt
  exact le_of_rank ha hb (Int.le_of_lt hab)

theorem le_self (hx : x ≠ .nan) : x.le x = true := by
  obtain ⟨a, ha⟩ := exists_rank hx
  exact le_of_rank ha ha (Int.le_refl a)

theorem lt_of_le_of_lt (hxy : x.le y = true) (hyz : y.lt z = true) : x.lt z = true := by
  obtain ⟨a, b, ha, hb, hab⟩ := le_iff.mp hxy
  obtain ⟨b', c, hb', hc, hbc⟩ := lt_iff.mp hyz
  rw [hb] at hb'
  obtain rfl := Option.some.inj hb'
  exact lt_iff.mpr ⟨a, c, ha, hc, Int.lt_of_le_of_lt hab hbc⟩

/-- Among numbers, what is not below is no smaller. -/
theorem le_of_not_lt (hx : x ≠ .nan) (hy : y ≠ .nan) (hnot : y.lt x = false) :
    x.le y = true := by
  obtain ⟨a, ha⟩ := exists_rank hx
  obtain ⟨b, hb⟩ := exists_rank hy
  rw [lt_of_rank hb ha, decide_eq_false_iff_not] at hnot
  exact le_of_rank ha hb (by omega)

theorem not_lt_of_le (hle : x.le y = true) : y.lt x = false := by
  obtain ⟨a, b, ha, hb, hab⟩ := le_iff.mp hle
  rw [lt_of_rank hb ha, decide_eq_false_iff_not]
  omega

theorem ne_nan_of_lt (hlt : x.lt y = true) : x ≠ .nan ∧ y ≠ .nan := by
  obtain ⟨a, b, ha, hb, -⟩ := lt_iff.mp hlt
  constructor
  · rintro rfl
    cases ha
  · rintro rfl
    cases hb

theorem lesser_le_left (hx : x ≠ .nan) : (lesser x y).le x = true := by
  unfold lesser
  split
  · rename_i hlt
    exact le_of_lt hlt
  · exact le_self hx

theorem lesser_le_right (hx : x ≠ .nan) (hy : y ≠ .nan) : (lesser x y).le y = true := by
  unfold lesser
  split
  · exact le_self hy
  · rename_i hnot
    exact le_of_not_lt hx hy (by simpa using hnot)

theorem lt_lesser (hx : z.lt x = true) (hy : z.lt y = true) : z.lt (lesser x y) = true := by
  unfold lesser
  split
  · exact hy
  · exact hx

/-- Rounding keeps the order of numbers of units. -/
theorem rank_ofUnits_mono {low high : Int} (hle : low ≤ high) :
    ∃ a b, (ofUnits low).rank = some a ∧ (ofUnits high).rank = some b ∧ a ≤ b := by
  refine ⟨_, _, rank_ofUnits low, rank_ofUnits high, ?_⟩
  by_cases hlow : low < 0
  · by_cases hhigh : high < 0
    · -- Below zero the magnitudes stand the other way round.
      have hround := roundMagnitude_mono (show high.natAbs ≤ low.natAbs by omega)
      simp only [signed, hlow, hhigh, decide_true, ↓reduceIte]
      omega
    · simp only [signed, hlow, hhigh, decide_true, decide_false, Bool.false_eq_true, ↓reduceIte]
      omega
  · have hhigh : ¬ high < 0 := by omega
    have hround := roundMagnitude_mono (show low.natAbs ≤ high.natAbs by omega)
    simp only [signed, hlow, hhigh, decide_false, Bool.false_eq_true, ↓reduceIte]
    omega

theorem rank_ofUnits_zero : (ofUnits 0).rank = some 0 := by
  rw [rank_ofUnits, Int.natAbs_zero, representable_zero.roundMagnitude_eq]
  simp [signed]

/-- A difference of finite doubles is the rounded difference of their values. -/
theorem rank_sub (hx : x.IsFinite) (hy : y.IsFinite) (ha : x.rank = some a)
    (hb : y.rank = some b) : (y.sub x).rank = (ofUnits (b - a)).rank := by
  obtain ⟨negative, mag, hmag, rfl⟩ := hx.exists_eq
  obtain ⟨sign, count, hcount, rfl⟩ := hy.exists_eq
  obtain rfl := Option.some.inj ha
  obtain rfl := Option.some.inj hb
  have hunits : signed sign count + signed (!negative) mag =
      signed sign count - signed negative mag := by
    rw [signed_neg]
    omega
  simp only [sub, neg, add, hunits]
  split
  · rename_i hzero
    rw [hzero, rank_ofUnits_zero]
    simp [zero, rank, signed]
  · rfl

/-- A difference does not shrink when its terms move apart. -/
theorem sub_mono {x' y' : Binary64} (hx : x.IsFinite) (hy : y.IsFinite) (hx' : x'.IsFinite)
    (hy' : y'.IsFinite) (hlow : x'.le x = true) (hhigh : y.le y' = true) :
    (y.sub x).le (y'.sub x') = true := by
  obtain ⟨a', a, ha', ha, hlow⟩ := le_iff.mp hlow
  obtain ⟨b, b', hb, hb', hhigh⟩ := le_iff.mp hhigh
  obtain ⟨near, far, hnear, hfar, hle⟩ :=
    rank_ofUnits_mono (show b - a ≤ b' - a' by omega)
  exact le_of_rank ((rank_sub hx hy ha hb).trans hnear) ((rank_sub hx' hy' ha' hb').trans hfar)
    hle

/-- Terms with a difference of at least some positive number are in order. -/
theorem lt_of_le_sub (hx : x.IsFinite) (hy : y.IsFinite) (hleast : (zero false).lt least = true)
    (hgap : least.le (y.sub x) = true) : x.lt y = true :=
  lt_of_not_sub_lt hx.ne_nan hy.ne_nan (Or.inl hx) hleast (not_lt_of_le hgap)

theorem rank_one : (ofInt 1).rank = some (scale : Int) := by
  rw [rank_ofInt (by simp only [Int.natAbs_one]; exact Nat.one_le_two_pow), Int.one_mul]

theorem ofInt_ne_nan (whole : Int) : ofInt whole ≠ .nan := by
  unfold ofInt ofUnits
  exact round_ne_nan _ _ _

theorem zero_lt_one : (zero false).lt (ofInt 1) = true :=
  lt_iff.mpr ⟨0, scale, rfl, rank_one, scale_pos⟩

/-- Terms that lie at least one apart differ by at least one. -/
theorem one_le_sub (hx : x.IsFinite) (hy : y.IsFinite) (ha : x.rank = some a)
    (hb : y.rank = some b) (hapart : a + scale ≤ b) : (ofInt 1).le (y.sub x) = true := by
  obtain ⟨one, place, hone, hplace, hle⟩ :=
    rank_ofUnits_mono (show (1 : Int) * scale ≤ b - a by omega)
  exact le_of_rank hone ((rank_sub hx hy ha hb).trans hplace) hle

/-- Strictly below 2^53 in magnitude. -/
def IsModerate (x : Binary64) : Prop :=
  (ofInt (-(Nat.pow 2 53 : Nat))).lt x = true ∧ x.lt (ofInt (Nat.pow 2 53 : Nat)) = true

instance (x : Binary64) : Decidable x.IsModerate :=
  inferInstanceAs (Decidable (_ ∧ _))

theorem IsModerate.isFinite (hx : x.IsModerate) : x.IsFinite :=
  isFinite_of_between hx.1 hx.2

theorem ofInt_lt_ofInt {low high : Int} (hlow : low.natAbs ≤ Nat.pow 2 53)
    (hhigh : high.natAbs ≤ Nat.pow 2 53) (hlt : low < high) :
    (ofInt low).lt (ofInt high) = true :=
  lt_iff.mpr ⟨_, _, rank_ofInt hlow, rank_ofInt hhigh, Int.mul_lt_mul_of_pos_right hlt scale_pos⟩

theorem isModerate_ofInt {whole : Int} (hwhole : whole.natAbs < Nat.pow 2 53) :
    (ofInt whole).IsModerate := by
  have hlt {low high : Int} := @ofInt_lt_ofInt low high
  unfold IsModerate
  generalize Nat.pow 2 53 = bound at hwhole hlt ⊢
  exact ⟨hlt (by omega) (by omega) (by omega), hlt (by omega) (by omega) (by omega)⟩

/-- A whole number that rounds below 2^53 in magnitude lies there, so it is exact. -/
theorem IsModerate.rank_ofInt {whole : Int} (hwhole : (ofInt whole).IsModerate) :
    (ofInt whole).rank = some (whole * scale) := by
  refine Binary64.rank_ofInt ?_
  obtain ⟨hlow, hhigh⟩ := hwhole
  -- Rounding keeps order, so past either bound it would stay past it.
  have hmono {low high : Int} (hle : low ≤ high) : (ofInt low).le (ofInt high) = true :=
    le_iff.mpr (rank_ofUnits_mono (Int.mul_le_mul_of_nonneg_right hle (Int.natCast_nonneg _)))
  by_contra hpast
  generalize Nat.pow 2 53 = bound at hlow hhigh hpast
  rcases (by omega : whole ≤ -(bound : Int) ∨ (bound : Int) ≤ whole) with hle | hle
  · rw [not_lt_of_le (hmono hle)] at hlow
    cases hlow
  · rw [not_lt_of_le (hmono hle)] at hhigh
    cases hhigh

/-- The next whole number above is no smaller. -/
theorem le_ceil (hx : x.rank = some a) {whole : Int} (hceil : x.ceil = .ok whole) :
    a ≤ whole * scale := by
  have hscale := scale_pos
  cases x with
  | nan => cases hx
  | infinite negative => cases hceil
  | finite negative mag hmag =>
      obtain rfl := Option.some.inj hx
      obtain rfl := Except.ok.inj hceil
      have hsplit := Int.ediv_mul_add_emod (-signed negative mag) scale
      have hrest := Int.emod_nonneg (-signed negative mag) (by omega : (scale : Int) ≠ 0)
      rw [Int.neg_mul]
      omega

end Binary64

end Kanban
