/-
Rounding against the doubles.  Rounding never passes a magnitude that a double
holds, so such a magnitude stays as it is, and the whole numbers beside a finite
double are finite doubles again.  It keeps order: what is no smaller rounds to what
is no smaller.
-/
import Mathlib.Data.List.Basic
import Kanban.Binary64.Basic

namespace Kanban

namespace Binary64

theorem le_nearest_of_mul_le {num den count : Nat} (hden : 0 < den)
    (hle : count * den ≤ num) : count ≤ nearest num den :=
  Nat.le_trans ((Nat.le_div_iff_mul_le hden).mpr hle) (le_nearest num den)

/-- What lies less than half a step above a multiple rounds to at most it. -/
theorem nearest_le_of_lt {num den count : Nat}
    (hlt : 2 * num < (2 * count + 1) * den) : nearest num den ≤ count := by
  have hden : 0 < den := Nat.pos_of_ne_zero fun hzero => by simp [hzero] at hlt
  have hsplit := Nat.div_add_mod num den
  have hexpand : (2 * count + 1) * den = 2 * (den * count) + den := by
    rw [Nat.add_mul, Nat.one_mul, Nat.mul_assoc, Nat.mul_comm count]
  have hfloor : num / den < count + 1 := by
    rw [Nat.div_lt_iff_lt_mul hden, Nat.add_mul, Nat.one_mul, Nat.mul_comm]
    omega
  rcases Nat.lt_or_eq_of_le (Nat.le_of_lt_succ hfloor) with hbelow | heq
  · exact Nat.le_trans (nearest_le num den) hbelow
  · rw [heq] at hsplit
    have hrest : 2 * (num % den) < den := by omega
    unfold nearest
    dsimp only
    rw [if_pos (Or.inl hrest)]
    exact Nat.le_of_eq heq

theorem roundMagnitude_one (num : Nat) :
    roundMagnitude num 1 =
      nearest num (Nat.pow 2 (num.log2 - 52)) * Nat.pow 2 (num.log2 - 52) := by
  rw [roundMagnitude, spacing, Nat.div_one, Nat.one_mul]

theorem log2_le_log2 {low high : Nat} (hle : low ≤ high) : low.log2 ≤ high.log2 := by
  by_cases hzero : low = 0
  · simp [hzero]
  · have hhigh : high ≠ 0 := by omega
    rw [Nat.le_log2 hhigh]
    exact Nat.le_trans (Nat.log2_self_le hzero) hle

/-- The step between doubles around a number divides every double that has at
least as many bits. -/
theorem Representable.step_dvd {mag num : Nat} (hmag : Representable mag)
    (hlog : num.log2 ≤ mag.log2) : Nat.pow 2 (num.log2 - 52) ∣ mag :=
  Nat.dvd_trans (Nat.pow_dvd_pow 2 (Nat.sub_le_sub_right hlog 52)) hmag.2

/-- Rounding keeps the leading bit. -/
theorem lead_le_roundMagnitude {num : Nat} (hnum : num ≠ 0) :
    Nat.pow 2 num.log2 ≤ roundMagnitude num 1 := by
  have hlead : Nat.pow 2 (num.log2 - (num.log2 - 52)) * Nat.pow 2 (num.log2 - 52) =
      2 ^ num.log2 := by
    rw [Nat.pow_eq, Nat.pow_eq, ← Nat.pow_add, Nat.sub_add_cancel (Nat.sub_le ..)]
  rw [roundMagnitude_one, Nat.pow_eq, ← hlead]
  refine Nat.mul_le_mul_right _ (le_nearest_of_mul_le (pow_two_pos _) ?_)
  rw [hlead]
  exact Nat.log2_self_le hnum

/-- A number with fewer bits is below the leading bit. -/
theorem lt_lead_of_log2_lt {low high : Nat} (hlog : low.log2 < high.log2) :
    low < Nat.pow 2 high.log2 :=
  Nat.lt_of_lt_of_le Nat.lt_log2_self (Nat.pow_le_pow_right (by decide) (by omega))

theorem Representable.le_roundMagnitude {mag num : Nat} (hmag : Representable mag)
    (hle : mag ≤ num) : mag ≤ roundMagnitude num 1 := by
  by_cases hlog : num.log2 ≤ mag.log2
  · rw [roundMagnitude_one]
    obtain ⟨count, rfl⟩ := hmag.step_dvd hlog
    rw [Nat.mul_comm]
    refine Nat.mul_le_mul_right _ (le_nearest_of_mul_le (pow_two_pos _) ?_)
    rwa [Nat.mul_comm]
  · -- `mag` has fewer bits, so the leading bit of `num` alone exceeds it.
    have hnum : num ≠ 0 := fun hzero => hlog (by simp [hzero])
    exact Nat.le_trans (Nat.le_of_lt (lt_lead_of_log2_lt (Nat.lt_of_not_le hlog)))
      (lead_le_roundMagnitude hnum)

theorem Representable.roundMagnitude_le {mag num : Nat} (hmag : Representable mag)
    (hle : num ≤ mag) : roundMagnitude num 1 ≤ mag := by
  rw [roundMagnitude_one]
  obtain ⟨count, hcount⟩ := hmag.step_dvd (log2_le_log2 hle)
  have hpos := pow_two_pos (num.log2 - 52)
  rw [Nat.mul_comm] at hcount
  rw [hcount] at hle ⊢
  refine Nat.mul_le_mul_right _ (nearest_le_of_lt ?_)
  rw [Nat.add_mul, Nat.mul_assoc]
  omega

theorem Representable.roundMagnitude_eq {mag : Nat} (hmag : Representable mag) :
    roundMagnitude mag 1 = mag :=
  Nat.le_antisymm (hmag.roundMagnitude_le (Nat.le_refl mag))
    (hmag.le_roundMagnitude (Nat.le_refl mag))

/-- The doubles below the limit that have the most bits are multiples of
2 to this power. -/
@[irreducible]
def topShift : Nat := 2045

theorem width_eq : width = topShift + 52 + 1 := by
  unfold topShift
  rfl

theorem pow_two_add (low high : Nat) :
    Nat.pow 2 (low + high) = Nat.pow 2 high * Nat.pow 2 low := by
  rw [Nat.pow_eq, Nat.pow_add, Nat.mul_comm]
  rfl

theorem limit_eq : limit = Nat.pow 2 53 * Nat.pow 2 topShift := by
  unfold limit
  rw [width_eq, Nat.add_assoc, pow_two_add]

theorem pow_two_lt {low high : Nat} (hlt : low < high) : Nat.pow 2 low < Nat.pow 2 high :=
  Nat.pow_lt_pow_right (by decide) hlt

theorem representable_two_pow {count : Nat} (hcount : count < width) :
    Representable (Nat.pow 2 count) := by
  have hlog : (Nat.pow 2 count).log2 = count := Nat.log2_two_pow
  unfold Representable limit
  rw [hlog]
  exact ⟨pow_two_lt hcount, Nat.pow_dvd_pow 2 (Nat.sub_le count 52)⟩

theorem step_eq_of_top {num : Nat} (hlow : Nat.pow 2 (topShift + 52) ≤ num)
    (hhigh : num < limit) : num.log2 - 52 = topShift := by
  have hpos := pow_two_pos (topShift + 52)
  have hlog : num.log2 = topShift + 52 := by
    unfold limit at hhigh
    rw [width_eq] at hhigh
    rw [Nat.pow_eq] at hlow hhigh
    exact (Nat.log2_eq_iff (by omega)).mpr ⟨hlow, hhigh⟩
  omega

/-- Between the greatest double and the limit there is one more step. -/
theorem Representable.add_le_limit {mag : Nat} (hmag : Representable mag) :
    mag + Nat.pow 2 topShift ≤ limit := by
  by_cases hbits : Nat.pow 2 (topShift + 52) ≤ mag
  · obtain ⟨count, hcount⟩ := hmag.2
    rw [step_eq_of_top hbits hmag.1, Nat.mul_comm] at hcount
    have hlt := hmag.1
    rw [hcount, limit_eq] at hlt ⊢
    rw [← Nat.succ_mul]
    exact Nat.mul_le_mul_right _ (Nat.lt_of_mul_lt_mul_right hlt)
  · rw [pow_two_add] at hbits
    rw [limit_eq]
    generalize Nat.pow 2 topShift = step at hbits ⊢
    simp only [Nat.pow_eq] at hbits ⊢
    omega

/-- What stays more than half a step below the limit does not round to it. -/
theorem roundMagnitude_lt_limit {num : Nat}
    (hnum : 2 * num + Nat.pow 2 topShift < 2 * limit) : roundMagnitude num 1 < limit := by
  by_cases hbits : Nat.pow 2 (topShift + 52) ≤ num
  · rw [roundMagnitude_one, step_eq_of_top hbits (by omega), limit_eq]
    have hcount : nearest num (Nat.pow 2 topShift) ≤ Nat.pow 2 53 - 1 := by
      apply nearest_le_of_lt
      rw [limit_eq] at hnum
      generalize Nat.pow 2 topShift = step at hnum ⊢
      simp only [Nat.pow_eq] at hnum ⊢
      omega
    refine Nat.mul_lt_mul_of_pos_right (Nat.lt_of_le_of_lt hcount ?_) (pow_two_pos _)
    exact Nat.sub_lt (pow_two_pos 53) Nat.one_pos
  · have hcount : topShift + 52 < width := by
      rw [width_eq]
      omega
    exact Nat.lt_of_le_of_lt
      ((representable_two_pow hcount).roundMagnitude_le (Nat.le_of_not_le hbits))
      (representable_two_pow hcount).1

theorem nearest_mono {low high : Nat} (den : Nat) (hle : low ≤ high) :
    nearest low den ≤ nearest high den := by
  rcases Nat.lt_or_eq_of_le (Nat.div_le_div_right (c := den) hle) with hlt | heq
  · have hlow := nearest_le low den
    have hhigh := le_nearest high den
    omega
  · -- Within one step the greater number is the first to be rounded up.
    have hlow := Nat.div_add_mod low den
    have hhigh := Nat.div_add_mod high den
    unfold nearest
    rw [heq] at hlow ⊢
    dsimp only
    split <;> split <;> omega

/-- Rounding keeps order, up to the limit past which everything is infinite. -/
theorem roundMagnitude_mono {low high : Nat} (hle : low ≤ high) :
    min (roundMagnitude low 1) limit ≤ min (roundMagnitude high 1) limit := by
  rcases Nat.lt_or_eq_of_le (log2_le_log2 hle) with hlog | hlog
  · -- The leading bit of the greater number stands between the two.
    have hhigh : high ≠ 0 := fun hzero => by simp [hzero] at hlog
    have habove := lead_le_roundMagnitude hhigh
    by_cases hwidth : high.log2 < width
    · have hbelow := (representable_two_pow hwidth).roundMagnitude_le
        (Nat.le_of_lt (lt_lead_of_log2_lt hlog))
      omega
    · have hlimit : limit ≤ Nat.pow 2 high.log2 := by
        unfold limit
        generalize width = bits at hwidth ⊢
        exact Nat.pow_le_pow_right (by decide) (Nat.le_of_not_lt hwidth)
      omega
  · have hround : roundMagnitude low 1 ≤ roundMagnitude high 1 := by
      rw [roundMagnitude_one, roundMagnitude_one, hlog]
      exact Nat.mul_le_mul_right _ (nearest_mono _ hle)
    omega

end Binary64

end Kanban
