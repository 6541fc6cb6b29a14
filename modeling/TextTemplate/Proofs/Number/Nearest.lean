import Mathlib
import TextTemplate.Proofs.Number.Overflow
import TextTemplate.Proofs.Number.Whole

/-!
# Decimals that have a finite double

The double nearest to a decimal is finite just if the decimal is less than `doubleLimit`
(`is_finite_nearest_float_iff`). Decimals with few digits and a small exponent are multiplied or
divided as doubles and are all finite; all others are rounded once.
-/

namespace TextTemplate.Number

open Float.Model (Format totalExponent UnpackedFloat)
open Float.Model.UnpackedFloat

/-! ## Powers of ten as doubles -/

/-- A positive double with all bits of its mantissa and with a small exponent. -/
def isModerate : UnpackedFloat → Bool
  | .finite .positive mantissa exponent _ =>
    mantissa.log2 == 52 && decide (-52 ≤ exponent) && decide (exponent ≤ 21)
  | _ => false

theorem exists_of_is_moderate {x : UnpackedFloat} (h : isModerate x) :
    ∃ mantissa exponent, ∃ hpos : 0 < mantissa, x = .finite .positive mantissa exponent hpos ∧
      mantissa.log2 = 52 ∧ -52 ≤ exponent ∧ exponent ≤ 21 := by
  match x with
  | .finite .positive mantissa exponent hpos =>
      simp only [isModerate, Bool.and_eq_true, beq_iff_eq, decide_eq_true_eq, and_assoc] at h
      exact ⟨mantissa, exponent, hpos, rfl, h⟩

/-- The powers of ten that are doubles are of a moderate size. -/
theorem is_moderate_power_of_ten {power : Nat}
    (h : power < Float.exactlyRepresentablePowersOfTen.size) :
    isModerate Float.exactlyRepresentablePowersOfTen[power].toModel.unpack := by
  have hall : Float.exactlyRepresentablePowersOfTen.all
      fun power => isModerate power.toModel.unpack := by decide +kernel
  exact Array.all_eq_true.mp hall power h

/-- A product of doubles of a moderate size is finite. -/
theorem is_finite_mul_of_small {x y : Float} {sign : Sign} {m n : Nat} {e f : Int} {hm : 0 < m}
    {hn : 0 < n} (hx : x.toModel.unpack = .finite .positive m e hm)
    (hy : y.toModel.unpack = .finite sign n f hn) (hbits : m.log2 = 52 ∧ n.log2 = 52)
    (hexponent : e + f ≤ 500) : (x * y).isFinite := by
  show (Float.Model.pack (UnpackedFloat.mul Format.binary64 x.toModel.unpack
    y.toModel.unpack)).isFinite
  have htotal : (m * n).log2 < 106 := by
    have hmless : m < 2 ^ 53 := (Nat.log2_lt hm.ne').mp (by omega)
    have hnless : n < 2 ^ 53 := (Nat.log2_lt hn.ne').mp (by omega)
    have hless : m * n < 2 ^ 53 * 2 ^ 53 := Nat.mul_lt_mul'' hmless hnless
    rw [← pow_add] at hless
    exact (Nat.log2_lt (Nat.mul_pos hm hn).ne').mpr hless
  rw [hx, hy]
  refine is_finite_round_of_small (by omega) ?_ _ _
  rw [totalExponent]
  omega

/-- A quotient of doubles of a moderate size is finite. -/
theorem is_finite_div_of_small {x y : Float} {sign : Sign} {m n : Nat} {e f : Int} {hm : 0 < m}
    {hn : 0 < n} (hx : x.toModel.unpack = .finite .positive m e hm)
    (hy : y.toModel.unpack = .finite sign n f hn) (hbits : m.log2 = 52)
    (hexponent : e - f ≤ 500) : (x / y).isFinite := by
  show (Float.Model.pack (UnpackedFloat.div Format.binary64 x.toModel.unpack
    y.toModel.unpack)).isFinite
  rw [hx, hy, UnpackedFloat.div, divCore]
  generalize hleast : min (e - f) (Format.binary64.targetExponent
    (totalExponent m e - totalExponent n f)) = exponent
  have hexponentLe : exponent ≤ e - f := hleast ▸ Int.min_le_left _ _
  have hquotient : (m <<< (e - f - exponent).toNat / n).log2 ≤ 52 + (e - f - exponent).toNat := by
    have hmless : m < 2 ^ 53 := (Nat.log2_lt hm.ne').mp (by omega)
    have hless : m <<< (e - f - exponent).toNat / n < 2 ^ (53 + (e - f - exponent).toNat) :=
      calc m <<< (e - f - exponent).toNat / n
          ≤ m * 2 ^ (e - f - exponent).toNat := Nat.shiftLeft_eq m _ ▸ Nat.div_le_self _ _
        _ < 2 ^ 53 * 2 ^ (e - f - exponent).toNat :=
            Nat.mul_lt_mul_of_pos_right hmless (Nat.two_pow_pos _)
        _ = 2 ^ (53 + (e - f - exponent).toNat) := (pow_add 2 53 _).symm
    by_cases hzero : m <<< (e - f - exponent).toNat / n = 0
    · simp [hzero]
    · have hlog := (Nat.log2_lt hzero).mpr hless
      omega
  refine is_finite_round_of_small (by omega) ?_ _ _
  rw [totalExponent]
  omega

/-- A double of few digits times a power of ten, or over it, is finite. -/
theorem is_finite_of_few_digits {significand power : Nat} (hsignificand : significand < 2 ^ 53)
    (hpower : power < Float.exactlyRepresentablePowersOfTen.size) :
    (significand.toUInt64.toFloat * Float.exactlyRepresentablePowersOfTen[power]).isFinite ∧
      (significand.toUInt64.toFloat / Float.exactlyRepresentablePowersOfTen[power]).isFinite := by
  obtain ⟨mantissa, exponent, hmantissa, hten, hbits, hlow, hhigh⟩ :=
    exists_of_is_moderate (is_moderate_power_of_ten hpower)
  rcases significand.eq_zero_or_pos with rfl | hpos
  · have hzero : (0 : Nat).toUInt64.toFloat.toModel.unpack = .zero .positive := rfl
    constructor
    · show (Float.Model.pack (UnpackedFloat.mul Format.binary64 _ _)).isFinite
      rw [hzero, hten]
      exact is_finite_pack_zero _
    · show (Float.Model.pack (UnpackedFloat.div Format.binary64 _ _)).isFinite
      rw [hzero, hten]
      exact is_finite_pack_zero _
  · have hunpacked := to_float_unpacked hpos hsignificand
    have hnormal := is_normal_of_nat hpos hsignificand
    have hfull : (significand * 2 ^ (52 - significand.log2)).log2 = 52 := by
      simpa using hnormal.log2_shifted 0
    exact ⟨is_finite_mul_of_small hunpacked hten ⟨hfull, hbits⟩ (by omega),
      is_finite_div_of_small hunpacked hten hfull (by omega)⟩

/-! ## Decimals -/

/-- A decimal of few digits and with a small exponent is less than the limit. -/
theorem is_below_limit_of_few_digits {significand : Nat} (hsignificand : significand < 2 ^ 53)
    {exponent : Int} (hexponent : exponent ≤ 22) : IsBelowLimit significand exponent := by
  calc significand * 10 ^ exponent.toNat
      < 2 ^ 53 * 10 ^ exponent.toNat := Nat.mul_lt_mul_of_pos_right hsignificand (by positivity)
    _ ≤ 2 ^ 53 * 10 ^ 22 := Nat.mul_le_mul_left _ (Nat.pow_le_pow_right (by norm_num) (by omega))
    _ ≤ 2 ^ 200 := by norm_num
    _ ≤ doubleLimit := le_double_limit (by norm_num)
    _ ≤ doubleLimit * 10 ^ (-exponent).toNat := Nat.le_mul_of_pos_right _ (by positivity)

/-- The exponent of a decimal, of which the sign is kept apart. -/
theorem neg_of_nat_eq (negative : Bool) (exponent : Nat) :
    (if negative then Int.negOfNat exponent else Int.ofNat exponent) =
      if negative then -(exponent : Int) else exponent := by
  cases negative with
  | false => rfl
  | true => exact Int.negOfNat_eq

/-- A decimal is finite as a double just if it is less than the limit. -/
theorem is_finite_scientific_iff (significand : Nat) (negative : Bool) (exponent : Nat) :
    (Float.ofScientific significand negative exponent).isFinite ↔
      IsBelowLimit significand (if negative then -(exponent : Int) else exponent) := by
  rw [Float.ofScientific]
  split
  · next hfew =>
      have hbelow : IsBelowLimit significand (if negative then -(exponent : Int) else exponent) :=
        is_below_limit_of_few_digits hfew.1 (by split <;> omega)
      refine iff_of_true ?_ hbelow
      have hpower : exponent < Float.exactlyRepresentablePowersOfTen.size :=
        Nat.lt_succ_of_le hfew.2
      obtain ⟨hproduct, hquotient⟩ := is_finite_of_few_digits hfew.1 hpower
      cases negative with
      | false => exact hproduct
      | true => exact hquotient
  · rw [neg_of_nat_eq]
    exact is_finite_of_scientific_iff significand _

/-- A number is less than the power of ten that the number of its digits says. -/
theorem lt_pow_length_decimal_digits (n : Nat) : n < 10 ^ (decimalDigits n).length := by
  have hless := of_digits_lt (is_digit_of_mem_decimal_digits (n := n))
  rwa [of_digits_decimal_digits] at hless

/-- A positive number is not less than the power of ten before it. -/
theorem pow_length_decimal_digits_le {n : Nat} (h : 0 < n) :
    10 ^ ((decimalDigits n).length - 1) ≤ n := by
  by_contra hless
  rcases Nat.eq_zero_or_pos ((decimalDigits n).length - 1) with hone | hmore
  · rw [hone, pow_zero] at hless
    omega
  · have hlength := length_decimal_digits_le hmore (Nat.not_le.mp hless)
    omega

/-- A decimal of which the first digit stands far behind the point is less than the limit. -/
theorem is_below_limit_of_small_order {significand : Nat} {exponent : Int}
    (h : (decimalDigits significand).length + exponent < -400) :
    IsBelowLimit significand exponent := by
  have hnone : exponent.toNat = 0 := by omega
  rw [IsBelowLimit, hnone, pow_zero, mul_one]
  calc significand
      < 10 ^ (decimalDigits significand).length := lt_pow_length_decimal_digits significand
    _ ≤ 10 ^ (-exponent).toNat := Nat.pow_le_pow_right (by norm_num) (by omega)
    _ ≤ doubleLimit * 10 ^ (-exponent).toNat := Nat.le_mul_of_pos_left _ double_limit_pos

/-- A power of ten with an exponent as great as this is not less than the limit. -/
theorem double_limit_le_pow_ten {power : Nat} (h : 400 ≤ power) : doubleLimit ≤ 10 ^ power :=
  calc doubleLimit ≤ 2 ^ (3 * power) := double_limit_le (by omega)
    _ = 8 ^ power := pow_mul 2 3 power
    _ ≤ 10 ^ power := Nat.pow_le_pow_left (by norm_num) power

/-- A decimal of which the first digit stands far before the point is not less than the limit. -/
theorem not_is_below_limit_of_large_order {significand : Nat} (hpos : 0 < significand)
    {exponent : Int} (h : 400 < (decimalDigits significand).length + exponent) :
    ¬ IsBelowLimit significand exponent := by
  have hleast := pow_length_decimal_digits_le hpos
  refine Nat.not_lt.mpr ?_
  rcases le_total 0 exponent with hwhole | hfraction
  · have hnone : (-exponent).toNat = 0 := by omega
    rw [hnone, pow_zero, mul_one]
    calc doubleLimit
        ≤ 10 ^ ((decimalDigits significand).length - 1 + exponent.toNat) :=
          double_limit_le_pow_ten (by omega)
      _ = 10 ^ ((decimalDigits significand).length - 1) * 10 ^ exponent.toNat := pow_add _ _ _
      _ ≤ significand * 10 ^ exponent.toNat := Nat.mul_le_mul_right _ hleast
  · have hnone : exponent.toNat = 0 := by omega
    have hlength : (decimalDigits significand).length - 1 =
        (decimalDigits significand).length - 1 - (-exponent).toNat + (-exponent).toNat := by omega
    rw [hlength, pow_add] at hleast
    rw [hnone, pow_zero, mul_one]
    exact le_trans (Nat.mul_le_mul_right _ (double_limit_le_pow_ten (by omega))) hleast

/-- The double nearest to a decimal is finite just if the decimal is less than the limit. -/
theorem is_finite_nearest_float_iff (significand : Nat) (exponent : Int) :
    (nearestFloat significand exponent).isFinite ↔ IsBelowLimit significand exponent := by
  rw [nearestFloat]
  split
  · next hsmall =>
      refine iff_of_true (by decide +kernel) ?_
      rcases hsmall with rfl | hsmall
      · exact is_below_limit_of_zero exponent
      · exact is_below_limit_of_small_order hsmall
  · next hlarge =>
      rw [not_or] at hlarge
      split
      · next hgreat =>
          exact iff_of_false (by decide +kernel)
            (not_is_below_limit_of_large_order (Nat.pos_of_ne_zero hlarge.1) hgreat)
      · have hexponent : (if decide (exponent < 0) then -(exponent.natAbs : Int)
            else (exponent.natAbs : Int)) = exponent := by
          by_cases hless : exponent < 0
          · rw [if_pos (decide_eq_true hless)]
            omega
          · rw [if_neg (by simpa using hless)]
            omega
        rw [is_finite_scientific_iff, hexponent]

end TextTemplate.Number
