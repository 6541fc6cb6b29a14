import Mathlib
import TextTemplate.Number.FloatReader
import TextTemplate.Proofs.Number.Rounding

/-!
# Decimals that no double reaches

A decimal is read as the product of its digits and a power of ten, or as the quotient, either of
which is rounded once. So the double is infinite just if the decimal is not less than
`doubleLimit` (`is_finite_of_scientific_iff`).
-/

namespace TextTemplate.Number

open Float.Model (Format totalExponent UnpackedFloat)
open Float.Model.UnpackedFloat

variable {significand : Nat}

/-! ## Products -/

/-- A significand times a power of ten is finite as a double just if it is less than the limit. -/
theorem is_finite_mul_iff (hpos : 0 < significand) (power : Nat)
    (hleft : 0 < significand <<< 53) (hright : 0 < 10 ^ power) :
    (Float.Model.pack (UnpackedFloat.mul Format.binary64
        (.finite .positive (significand <<< 53) (-53) hleft)
        (.finite .positive (10 ^ power) 0 hright))).isFinite ↔
      significand * 10 ^ power < doubleLimit := by
  have hmantissa : significand <<< 53 * 10 ^ power = significand * 10 ^ power * 2 ^ 53 := by
    rw [Nat.shiftLeft_eq, Nat.mul_right_comm]
  have hlocates : Locates (.ofMantissaAndAccuracy (significand <<< 53 * 10 ^ power) .exact)
      (significand * 10 ^ power * 2 ^ 53) 1 := by
    rw [← hmantissa]
    exact (Nat.mul_one _).symm
  have hbits : 53 ≤ (significand <<< 53 * 10 ^ power).log2 := by
    have hone : 2 ^ 53 ≤ significand <<< 53 * 10 ^ power := by
      rw [hmantissa]
      exact Nat.le_mul_of_pos_left _ (Nat.mul_pos hpos hright)
    exact (Nat.le_log2 (by omega)).mpr hone
  have htarget : -((53 : Nat) : Int) ≤ targetOf (significand <<< 53 * 10 ^ power) (-(53 : Nat)) := by
    rw [target_of_eq]
    omega
  have hround := is_finite_round_iff Nat.one_pos hlocates htarget .positive
  rw [Nat.mul_one] at hround
  exact hround

/-! ## Quotients -/

/-- A significand over a power of ten is finite as a double just if it is less than the limit. -/
theorem is_finite_div_iff (hpos : 0 < significand) {den : Nat} (hden : 0 < den) :
    (Float.Model.pack (UnpackedFloat.div Format.binary64
        (.finite .positive significand 0 hpos) (.finite .positive den 0 hden))).isFinite ↔
      significand < doubleLimit * den := by
  -- The quotient is taken of a significand that is shifted to have enough bits.
  obtain ⟨shift, hshift, hbits⟩ : ∃ shift : Nat,
      min (0 - 0) (Format.binary64.targetExponent
        (totalExponent significand 0 - totalExponent den 0)) = -(shift : Int) ∧
      (shift < 1074 → den.log2 + 1 + 52 ≤ significand.log2 + shift) := by
    have hexponent : Format.binary64.targetExponent
        (totalExponent significand 0 - totalExponent den 0) =
          max ((significand.log2 : Int) - den.log2 - 53) (-1074) := by
      show max ((((significand.log2 : Int) + 1 + 0) - (den.log2 + 1 + 0)) - 53) (-1074) = _
      omega
    rw [hexponent]
    exact ⟨(-min (0 - 0) (max ((significand.log2 : Int) - den.log2 - 53) (-1074))).toNat, by omega⟩
  have hlocates := Locates.of_division (significand * 2 ^ shift) hden
  have htarget : -(shift : Int) ≤ targetOf (significand * 2 ^ shift / den) (-shift) := by
    rw [target_of_eq]
    by_cases hless : shift < 1074
    · have hquotient : 2 ^ 52 ≤ significand * 2 ^ shift / den := by
        rw [Nat.le_div_iff_mul_le hden]
        calc 2 ^ 52 * den ≤ 2 ^ 52 * 2 ^ (den.log2 + 1) :=
              Nat.mul_le_mul_left _ (Nat.le_of_lt Nat.lt_log2_self)
          _ = 2 ^ (den.log2 + 1 + 52) := by rw [← Nat.pow_add, Nat.add_comm]
          _ ≤ 2 ^ (significand.log2 + shift) := Nat.pow_le_pow_right (by decide) (hbits hless)
          _ = 2 ^ significand.log2 * 2 ^ shift := Nat.pow_add 2 _ _
          _ ≤ significand * 2 ^ shift :=
              Nat.mul_le_mul_right _ (Nat.log2_self_le (Nat.ne_of_gt hpos))
      have hlog := (Nat.le_log2 (by omega)).mpr hquotient
      omega
    · omega
  have hround := is_finite_round_iff hden hlocates htarget .positive
  have hamount : (0 - 0 - -(shift : Int)).toNat = shift := by omega
  rw [UnpackedFloat.div, divCore]
  simp only [hshift, hamount, Nat.shiftLeft_eq]
  exact hround

/-! ## Decimals -/

/-- Whether the decimal is less than the limit. -/
def IsBelowLimit (significand : Nat) (exponent : Int) : Prop :=
  significand * 10 ^ exponent.toNat < doubleLimit * 10 ^ (-exponent).toNat

/-- Zero is less than the limit. -/
theorem is_below_limit_of_zero (exponent : Int) : IsBelowLimit 0 exponent := by
  rw [IsBelowLimit, Nat.zero_mul]
  exact Nat.mul_pos double_limit_pos (Nat.pow_pos (by decide))

/-- A decimal that is read by rounding once is finite as a double just if it is less than the
limit. -/
theorem is_finite_of_scientific_iff (significand : Nat) (exponent : Int) :
    (Float.Model.ofScientific significand exponent).isFinite ↔
      IsBelowLimit significand exponent := by
  rw [Float.Model.ofScientific, UnpackedFloat.ofScientific]
  split
  · next hzero =>
      rw [hzero]
      exact iff_of_true (is_finite_pack_zero .positive) (is_below_limit_of_zero exponent)
  · next hzero =>
      have hpos : 0 < significand := Nat.pos_of_ne_zero hzero
      split
      · next hgreat =>
          have hexponent : 2048 < exponent := hgreat
          have hnone : (-exponent).toNat = 0 := by omega
          have hpower : doubleLimit ≤ 10 ^ exponent.toNat :=
            Nat.le_trans (double_limit_le (by omega)) (Nat.pow_le_pow_left (by decide) _)
          refine iff_of_false (by decide) (Nat.not_lt.mpr ?_)
          rw [hnone, Nat.pow_zero, Nat.mul_one]
          exact Nat.le_trans hpower (Nat.le_mul_of_pos_left _ hpos)
      · split
        · next hsmall =>
            have hexponent : exponent < -(2048 + (significand.log2 : Int)) := hsmall
            have hnone : exponent.toNat = 0 := by omega
            have hpower : significand < 10 ^ (-exponent).toNat :=
              calc significand < 2 ^ (significand.log2 + 1) := Nat.lt_log2_self
                _ ≤ 2 ^ (-exponent).toNat := Nat.pow_le_pow_right (by decide) (by omega)
                _ ≤ 10 ^ (-exponent).toNat := Nat.pow_le_pow_left (by decide) _
            refine iff_of_true (is_finite_pack_zero .positive) ?_
            rw [IsBelowLimit, hnone, Nat.pow_zero, Nat.mul_one]
            exact Nat.lt_of_lt_of_le hpower (Nat.le_mul_of_pos_left _ double_limit_pos)
        · split
          · next hwhole =>
              have hnone : (-exponent).toNat = 0 := by omega
              have hproduct := is_finite_mul_iff hpos exponent.toNat
              rw [IsBelowLimit, hnone, Nat.pow_zero, Nat.mul_one]
              exact hproduct _ _
          · next hfraction =>
              have hnone : exponent.toNat = 0 := by omega
              have hden : 0 < 10 ^ (-exponent).toNat := Nat.pow_pos (by decide)
              have hquotient := is_finite_div_iff hpos hden
              rw [IsBelowLimit, hnone, Nat.pow_zero, Nat.mul_one]
              exact hquotient

/-- A whole number with more digits than a significand holds is finite as a double just if it is less
than the limit. -/
theorem is_finite_of_nat_iff {n : Nat} (h : 2 ^ 53 ≤ n) :
    (Float.ofNat n).isFinite ↔ n < doubleLimit := by
  have hmodel := is_finite_of_scientific_iff n 0
  rw [IsBelowLimit] at hmodel
  generalize doubleLimit = limit at hmodel ⊢
  rw [Int.toNat_zero, Int.neg_zero, Int.toNat_zero, Nat.pow_zero, Nat.mul_one, Nat.mul_one]
    at hmodel
  have hslow : Float.ofNat n = ⟨Float.Model.ofScientific n 0⟩ :=
    dif_neg fun hfew => Nat.not_lt.mpr h hfew.1
  rw [hslow]
  exact hmodel

end TextTemplate.Number
