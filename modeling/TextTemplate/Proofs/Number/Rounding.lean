import Mathlib
import TextTemplate.Number.Digits

/-!
# Rounding to doubles

What arithmetic makes of an exact result. The mantissa that is left of it tells, with its two
residual bits, where the exact result lies (`Locates`), and each shift by a bit keeps that. The
rounded result is infinite just if the exact one is at least half way from the greatest double to
the next power of two (`is_finite_round_iff`).
-/

namespace TextTemplate.Number

open Float.Model (Format totalExponent UnpackedFloat)
open Float.Model.UnpackedFloat

/-! ## Packed results -/

/-- Fields are packed to a finite double unless the exponent has all its bits. -/
theorem is_finite_pack_components (sign : Sign) (exponent : BitVec 11) (mantissa : BitVec 52) :
    (unpack Format.binary64 (packComponents Format.binary64 sign exponent mantissa)).isFinite ↔
      exponent ≠ -1#11 := by
  simp only [unpack, unpackExponent_packComponents, unpackMantissa_packComponents]
  by_cases hall : exponent = -1#11
  · rw [if_pos hall]
    refine iff_of_false ?_ (not_not_intro hall)
    split <;> exact Bool.false_ne_true
  · rw [if_neg hall]
    refine iff_of_true ?_ hall
    split
    · split <;> rfl
    · rfl

/-- Zero is packed to a finite double. -/
theorem is_finite_pack_zero (sign : Sign) : (Float.Model.pack (.zero sign)).isFinite :=
  (is_finite_pack_components sign 0 0).mpr (by decide)

/-- A result with an exponent that is not the least one is packed to a finite double just if the
exponent is one of a double. -/
theorem is_finite_pack_finite (sign : Sign) {mantissa : Nat} (hpos : 0 < mantissa) {exponent : Int}
    (hleast : -1074 ≤ exponent) :
    (Float.Model.pack (.finite sign mantissa exponent hpos)).isFinite ↔ exponent ≤ 971 := by
  have hbiased : (exponent + (Format.binary64.exponentBias : Int) +
      (Format.binary64.mantissaBitsWithoutImplicit : Int)).toNat = (exponent + 1075).toNat := by
    show (exponent + 1023 + 52).toNat = _
    omega
  have hgreat : 2 ^ Format.binary64.exponentBits ≤ (exponent + 1075).toNat + 1 ↔ 971 < exponent := by
    show 2048 ≤ _ ↔ _
    omega
  show (unpack Format.binary64 (UnpackedFloat.pack Format.binary64 _)).isFinite ↔ _
  simp only [UnpackedFloat.pack, hbiased, hgreat]
  split
  · next h =>
      have hinfinite := is_finite_pack_components sign (-1#11) 0
      exact iff_of_false (mt hinfinite.mp (not_not_intro rfl)) (Int.not_le.mpr h)
  · next h =>
      have hfits : exponent ≤ 971 := Int.not_lt.mp h
      refine iff_of_true ?_ hfits
      split
      · refine (is_finite_pack_components sign _ _).mpr fun heq => ?_
        have hvalue := congrArg BitVec.toNat heq
        rw [BitVec.toNat_ofNat, Nat.mod_eq_of_lt (by show _ < 2048; omega)] at hvalue
        have hall : (-1#11 : BitVec 11).toNat = 2047 := rfl
        omega
      · exact (is_finite_pack_components sign _ _).mpr (by decide)

/-- The exponent of a double lies between the least and the greatest one. -/
theorem exponent_bounds_of_unpack {word : BitVec Format.binary64.numBits} {sign : Sign}
    {mantissa : Nat} {exponent : Int} {hpos : 0 < mantissa}
    (h : unpack Format.binary64 word = .finite sign mantissa exponent hpos) :
    -1074 ≤ exponent ∧ exponent ≤ 971 := by
  have hfield := (@unpackExponent Format.binary64 word).isLt
  simp only [unpack, ← BitVec.toNat_inj] at h
  generalize (@unpackExponent Format.binary64 word).toNat = field at h hfield
  change field < 2048 at hfield
  split at h
  · split at h <;> cases h
  · next hless =>
      have hless : field ≠ 2047 := hless
      split at h
      · next hnone =>
          obtain rfl : field = 0 := hnone
          split at h <;> cases h
          decide
      · next hsome =>
          have hsome : field ≠ 0 := hsome
          have hexponent : (field : Int) - (1023 + 52) = exponent := (finite.inj h).2.2
          omega

/-- The sign of a double has no part in whether the double is finite. -/
theorem is_finite_neg_iff (x : Float) : (-x).isFinite ↔ x.isFinite := by
  show (Float.Model.pack x.toModel.unpack.neg).isFinite ↔ x.toModel.unpack.isFinite
  cases hx : x.toModel.unpack with
  | notANumber => exact iff_of_false (by decide) Bool.false_ne_true
  | infinity sign => exact iff_of_false (by cases sign <;> decide) Bool.false_ne_true
  | zero sign => exact iff_of_true (is_finite_pack_zero (-sign)) rfl
  | finite sign mantissa exponent hpos =>
      obtain ⟨hleast, hgreatest⟩ := exponent_bounds_of_unpack hx
      exact iff_of_true ((is_finite_pack_finite (-sign) hpos hleast).mpr hgreatest) rfl

/-! ## Residual bits -/

/-- The mantissa with its residual bits tells where the quotient lies: at the mantissa, half a unit
above it, or strictly between these points. -/
def Locates (extended : ExtendedMantissa) (num den : Nat) : Prop :=
  match extended with
  | ⟨mantissa, false, false⟩ => num = mantissa * den
  | ⟨mantissa, false, true⟩ => mantissa * den < num ∧ 2 * num < 2 * (mantissa * den) + den
  | ⟨mantissa, true, false⟩ => 2 * num = 2 * (mantissa * den) + den
  | ⟨mantissa, true, true⟩ =>
    2 * (mantissa * den) + den < 2 * num ∧ num < mantissa * den + den

namespace Locates

variable {extended : ExtendedMantissa} {num den : Nat}

/-- A shift by a bit keeps what the bits tell of the quotient, in units of twice the size. -/
theorem shift_right_one (hden : 0 < den) (h : Locates extended num den) :
    Locates extended.shiftRightOne num (2 * den) := by
  obtain ⟨mantissa, roundBit, stickyBit⟩ := extended
  have hsplit : mantissa * den = mantissa / 2 * (2 * den) + mantissa % 2 * den := by
    rw [← Nat.mul_assoc, ← Nat.add_mul, Nat.mul_comm (mantissa / 2), Nat.div_add_mod]
  have hodd : ((0 : Nat) != 0) = false ∧ ((1 : Nat) != 0) = true := ⟨rfl, rfl⟩
  rw [ExtendedMantissa.shiftRightOne]
  rcases Nat.mod_two_eq_zero_or_one mantissa with hbit | hbit <;>
    cases roundBit <;> cases stickyBit <;>
    simp only [hbit, hodd, Bool.or_false, Bool.or_true, Locates] at hsplit h ⊢ <;> omega

/-- A shift keeps what the bits tell of the quotient. -/
theorem shift_right (hden : 0 < den) (h : Locates extended num den) (shift : Nat) :
    Locates (extended >>> shift) num (2 ^ shift * den) := by
  induction shift with
  | zero => rwa [Nat.pow_zero, Nat.one_mul]
  | succ shift ih =>
      rw [Nat.pow_succ', Nat.mul_assoc]
      exact ih.shift_right_one (Nat.mul_pos (Nat.two_pow_pos shift) hden)

/-- The quotient lies at the mantissa or less than a unit above it. -/
theorem bounds (hden : 0 < den) (h : Locates extended num den) :
    extended.mantissa * den ≤ num ∧ num < extended.mantissa * den + den := by
  obtain ⟨mantissa, roundBit, stickyBit⟩ := extended
  cases roundBit <;> cases stickyBit <;> simp only [Locates] at h ⊢ <;> omega

/-- An odd mantissa is rounded up just if the quotient lies at least half a unit above it. -/
theorem rounded_mantissa_of_odd (hden : 0 < den) (h : Locates extended num den)
    (hodd : extended.mantissa % 2 = 1) :
    extended.roundedMantissa =
      if 2 * (extended.mantissa * den) + den ≤ 2 * num then extended.mantissa + 1
      else extended.mantissa := by
  obtain ⟨mantissa, roundBit, stickyBit⟩ := extended
  simp only at hodd
  cases roundBit <;> cases stickyBit <;> simp only [Locates] at h <;>
    simp only [ExtendedMantissa.roundedMantissa, ExtendedMantissa.accuracy,
      Accuracy.roundToNearestEven, hodd] <;> split <;> omega

/-- A mantissa and the accuracy of a division tell where its quotient lies. -/
theorem of_division (num : Nat) {den : Nat} (hden : 0 < den) :
    Locates (.ofMantissaAndAccuracy (num / den) (accuracyOfFraction (num % den) den)) num den := by
  have hsplit : num / den * den + num % den = num := Nat.div_add_mod' num den
  have hrest : num % den < den := Nat.mod_lt num hden
  rw [accuracyOfFraction]
  split
  · simp only [ExtendedMantissa.ofMantissaAndAccuracy, Locates]
    omega
  · cases hcompare : compare (2 * (num % den)) den with
    | lt =>
        have hless := Nat.compare_eq_lt.mp hcompare
        simp only [ExtendedMantissa.ofMantissaAndAccuracy, Locates]
        omega
    | eq =>
        have hequal := Nat.compare_eq_eq.mp hcompare
        simp only [ExtendedMantissa.ofMantissaAndAccuracy, Locates]
        omega
    | gt =>
        have hgreater := Nat.compare_eq_gt.mp hcompare
        simp only [ExtendedMantissa.ofMantissaAndAccuracy, Locates]
        omega

end Locates

/-! ## Shifts to a target -/

/-- The mantissa is rounded to itself or to the next one. -/
theorem rounded_mantissa_le (extended : ExtendedMantissa) :
    extended.mantissa ≤ extended.roundedMantissa ∧
      extended.roundedMantissa ≤ extended.mantissa + 1 := by
  obtain ⟨mantissa, roundBit, stickyBit⟩ := extended
  cases roundBit <;> cases stickyBit <;>
    simp only [ExtendedMantissa.roundedMantissa, ExtendedMantissa.accuracy,
      Accuracy.roundToNearestEven] <;> omega

theorem mantissa_shift_right (extended : ExtendedMantissa) (shift : Nat) :
    (extended >>> shift).mantissa = extended.mantissa / 2 ^ shift := by
  induction shift with
  | zero => exact (Nat.div_one _).symm
  | succ shift ih =>
      rw [Nat.pow_succ, ← Nat.div_div_eq_div_mul, ← ih]
      rfl

/-- The exponent that a double with the mantissa and the exponent should have. -/
def targetOf (mantissa : Nat) (exponent : Int) : Int :=
  Format.binary64.targetExponent (totalExponent mantissa exponent)

theorem target_of_eq (mantissa : Nat) (exponent : Int) :
    targetOf mantissa exponent = max ((mantissa.log2 : Int) + 1 + exponent - 53) (-1074) :=
  rfl

/-- How far a mantissa is shifted towards its target. -/
def shiftOf (mantissa : Nat) (exponent : Int) : Nat :=
  (targetOf mantissa exponent - exponent).toNat

/-- A shifted mantissa fits into a significand. -/
theorem shifted_lt (mantissa : Nat) (exponent : Int) :
    mantissa / 2 ^ shiftOf mantissa exponent < 2 ^ 53 := by
  rcases mantissa.eq_zero_or_pos with rfl | hpos
  · rw [Nat.zero_div]
    exact Nat.two_pow_pos 53
  · have hbits : mantissa.log2 + 1 ≤ 53 + shiftOf mantissa exponent := by
      rw [shiftOf, target_of_eq]
      omega
    rw [Nat.div_lt_iff_lt_mul (Nat.two_pow_pos _), ← Nat.pow_add]
    exact Nat.lt_of_lt_of_le Nat.lt_log2_self (Nat.pow_le_pow_right (by decide) hbits)

/-- A mantissa that is shifted to an exponent above the least one fills a significand. -/
theorem le_shifted {mantissa : Nat} (hpos : 0 < mantissa) {exponent : Int}
    (htarget : exponent ≤ targetOf mantissa exponent) (hleast : -1074 < targetOf mantissa exponent) :
    2 ^ 52 ≤ mantissa / 2 ^ shiftOf mantissa exponent := by
  have hbits : 52 + shiftOf mantissa exponent = mantissa.log2 := by
    rw [shiftOf]
    rw [target_of_eq] at htarget hleast ⊢
    omega
  rw [Nat.le_div_iff_mul_le (Nat.two_pow_pos _), ← Nat.pow_add, hbits]
  exact Nat.log2_self_le (Nat.ne_of_gt hpos)

/-! ## Rounded results -/

/-- The mantissa with the residual bits after the first shift. -/
def firstShifted (mantissa : Nat) (exponent : Int) (accuracy : Accuracy) : ExtendedMantissa :=
  ExtendedMantissa.ofMantissaAndAccuracy mantissa accuracy >>> shiftOf mantissa exponent

/-- The exponent after the first shift. -/
def firstExponent (mantissa : Nat) (exponent : Int) : Int :=
  exponent + shiftOf mantissa exponent

theorem mantissa_of_accuracy (mantissa : Nat) (accuracy : Accuracy) :
    (ExtendedMantissa.ofMantissaAndAccuracy mantissa accuracy).mantissa = mantissa := by
  match accuracy with
  | .exact | .inexact .lt | .inexact .eq | .inexact .gt => rfl

theorem first_shifted_mantissa (mantissa : Nat) (exponent : Int) (accuracy : Accuracy) :
    (firstShifted mantissa exponent accuracy).mantissa =
      mantissa / 2 ^ shiftOf mantissa exponent := by
  rw [firstShifted, mantissa_shift_right, mantissa_of_accuracy]

theorem least_le_first_exponent (mantissa : Nat) (exponent : Int) :
    -1074 ≤ firstExponent mantissa exponent := by
  rw [firstExponent, shiftOf, target_of_eq]
  omega

/-- A second shift is only needed if rounding has made the mantissa too long, and then only by a
bit. -/
theorem shift_of_rounded {rounded : Nat} (hrounded : rounded ≤ 2 ^ 53) {exponent : Int}
    (hleast : -1074 ≤ exponent) : shiftOf rounded exponent = if rounded = 2 ^ 53 then 1 else 0 := by
  rw [shiftOf, target_of_eq]
  split
  · next hfull =>
      rw [hfull, Nat.log2_two_pow]
      omega
  · next hless =>
      have hbits : rounded.log2 ≤ 52 := by
        rcases rounded.eq_zero_or_pos with rfl | hpos
        · exact Nat.zero_le _
        · exact Nat.le_of_lt_succ ((Nat.log2_lt (Nat.ne_of_gt hpos)).mpr (by omega))
      omega

/-- The result of rounding is finite if nothing is left of the mantissa, or if the exponent is one of
a double. -/
theorem is_finite_round_eq (sign : Sign) (mantissa : Nat) (exponent : Int) (accuracy : Accuracy) :
    (Float.Model.pack
        (roundWithAccuracy Format.binary64 sign mantissa exponent accuracy)).isFinite ↔
      (firstShifted mantissa exponent accuracy).roundedMantissa = 0 ∨
        firstExponent mantissa exponent +
          (if (firstShifted mantissa exponent accuracy).roundedMantissa = 2 ^ 53 then 1 else 0) ≤
            971 := by
  have hrounded : (firstShifted mantissa exponent accuracy).roundedMantissa ≤ 2 ^ 53 := by
    have hnext := (rounded_mantissa_le (firstShifted mantissa exponent accuracy)).2
    have hless := shifted_lt mantissa exponent
    rw [← first_shifted_mantissa mantissa exponent accuracy] at hless
    omega
  have hshift := shift_of_rounded hrounded (least_le_first_exponent mantissa exponent)
  generalize hvalue : (firstShifted mantissa exponent accuracy).roundedMantissa = rounded
    at hrounded hshift
  have hround : roundWithAccuracy Format.binary64 sign mantissa exponent accuracy =
      if h : ((⟨rounded, false, false⟩ : ExtendedMantissa) >>>
          shiftOf rounded (firstExponent mantissa exponent)).mantissa = 0 then .zero sign
      else .finite sign _ (firstExponent mantissa exponent +
        shiftOf rounded (firstExponent mantissa exponent)) (Nat.pos_of_ne_zero h) := by
    subst hvalue
    rfl
  have hfinal : ((⟨rounded, false, false⟩ : ExtendedMantissa) >>>
      shiftOf rounded (firstExponent mantissa exponent)).mantissa = 0 ↔ rounded = 0 := by
    rw [mantissa_shift_right, hshift]
    show rounded / _ = 0 ↔ rounded = 0
    split <;> omega
  have hleast := least_le_first_exponent mantissa exponent
  rw [hround]
  split
  · next hzero => exact iff_of_true (is_finite_pack_zero sign) (.inl (hfinal.mp hzero))
  · next hpos =>
      rw [is_finite_pack_finite sign (Nat.pos_of_ne_zero hpos) (by omega), hshift,
        or_iff_right (mt hfinal.mpr hpos)]
      split <;> rfl

section

variable {mantissa shift number den : Nat} {accuracy : Accuracy} (hden : 0 < den)
  (hlocates : Locates (.ofMantissaAndAccuracy mantissa accuracy) (number * 2 ^ shift) den)

/-- The unit of a mantissa that is shifted further than the quotient. -/
theorem unit_eq (shift more den : Nat) :
    2 ^ (shift + more) * den = 2 ^ more * den * 2 ^ shift := by
  rw [Nat.pow_add, Nat.mul_comm (2 ^ shift), Nat.mul_right_comm]

include hden hlocates

/-- Where the exact quotient lies, in units of the shifted mantissa. -/
theorem shifted_bounds (more : Nat) :
    mantissa / 2 ^ (shift + more) * (2 ^ more * den) ≤ number ∧
      number < (mantissa / 2 ^ (shift + more) + 1) * (2 ^ more * den) := by
  have hunit : 0 < 2 ^ (shift + more) * den := Nat.mul_pos (Nat.two_pow_pos _) hden
  obtain ⟨hlow, hhigh⟩ := (hlocates.shift_right hden (shift + more)).bounds hunit
  rw [mantissa_shift_right, mantissa_of_accuracy, unit_eq, ← Nat.mul_assoc] at hlow hhigh
  rw [← Nat.add_mul] at hhigh
  refine ⟨Nat.le_of_mul_le_mul_right hlow (Nat.two_pow_pos shift), ?_⟩
  rw [Nat.add_mul, Nat.one_mul]
  exact Nat.lt_of_mul_lt_mul_right hhigh

/-- A quotient with a full mantissa at an exponent beyond that of doubles is not less than the
limit. -/
theorem limit_le_of_great {top more : Nat}
    (hfull : 2 ^ 52 ≤ mantissa / 2 ^ (shift + (top + 2 + more))) :
    (2 ^ 54 - 1) * (2 ^ top * den) ≤ number := by
  obtain ⟨hlow, -⟩ := shifted_bounds hden hlocates (top + 2 + more)
  have hunit : 4 * (2 ^ top * den) ≤ 2 ^ (top + 2 + more) * den := by
    have hpower : 2 ^ (top + 2) * den ≤ 2 ^ (top + 2 + more) * den :=
      Nat.mul_le_mul_right _ (Nat.pow_le_pow_right (by decide) (Nat.le_add_right _ _))
    rwa [Nat.pow_add, Nat.mul_comm (2 ^ top), Nat.mul_assoc] at hpower
  have hnumber : 2 ^ 52 * (4 * (2 ^ top * den)) ≤ number :=
    Nat.le_trans (Nat.mul_le_mul hfull hunit) hlow
  omega

/-- A quotient with a smaller exponent than the greatest one is less than the limit. -/
theorem lt_limit_of_small {top : Nat} (hsmall : shiftOf mantissa (-shift) ≤ shift + top) :
    number < (2 ^ 54 - 1) * (2 ^ top * den) := by
  obtain ⟨-, hhigh⟩ := shifted_bounds hden hlocates top
  have hless : mantissa / 2 ^ (shift + top) < 2 ^ 53 :=
    Nat.lt_of_le_of_lt (Nat.div_le_div_left (Nat.pow_le_pow_right (by decide) hsmall)
      (Nat.two_pow_pos _)) (shifted_lt mantissa (-shift))
  have hnumber : number < 2 ^ 53 * (2 ^ top * den) :=
    Nat.lt_of_lt_of_le hhigh (Nat.mul_le_mul_right _ hless)
  omega

/-- With the greatest exponent of a double, the mantissa is rounded to the next power of two just if
the quotient is not less than the limit. -/
theorem rounded_eq_iff_of_greatest {top : Nat}
    (hsteps : shiftOf mantissa (-shift) = shift + (top + 1)) :
    (firstShifted mantissa (-shift) accuracy).roundedMantissa = 2 ^ 53 ↔
      (2 ^ 54 - 1) * (2 ^ top * den) ≤ number := by
  obtain ⟨hlow, hhigh⟩ := shifted_bounds hden hlocates (top + 1)
  have hless := shifted_lt mantissa (-shift)
  have hfirst := first_shifted_mantissa mantissa (-shift) accuracy
  have hunit : 2 ^ (top + 1) * den = 2 * (2 ^ top * den) := by rw [Nat.pow_succ', Nat.mul_assoc]
  rw [hsteps] at hless hfirst
  rw [hunit] at hlow hhigh
  by_cases hlast : mantissa / 2 ^ (shift + (top + 1)) = 2 ^ 53 - 1
  · -- The last mantissa is odd, and so it is rounded up from half a unit above it.
    have hodd : (firstShifted mantissa (-shift) accuracy).mantissa % 2 = 1 := by
      rw [hfirst]
      omega
    have hlocated : Locates (firstShifted mantissa (-shift) accuracy) (number * 2 ^ shift)
        (2 ^ (shift + (top + 1)) * den) := hsteps ▸ hlocates.shift_right hden _
    have hscale : 2 * ((2 ^ 53 - 1) * (2 ^ (shift + (top + 1)) * den)) +
          2 ^ (shift + (top + 1)) * den ≤ 2 * (number * 2 ^ shift) ↔
        (2 ^ 54 - 1) * (2 ^ top * den) ≤ number := by
      rw [unit_eq, hunit]
      refine Iff.trans ?_ (Nat.mul_le_mul_right_iff (Nat.two_pow_pos shift))
      simp only [Nat.mul_assoc]
      generalize 2 ^ top * (den * 2 ^ shift) = scaled
      omega
    rw [hlocated.rounded_mantissa_of_odd (Nat.mul_pos (Nat.two_pow_pos _) hden) hodd, hfirst, hlast]
    simp only [hscale]
    split <;> omega
  · -- A smaller mantissa stays below the power of two.
    have hnext := (rounded_mantissa_le (firstShifted mantissa (-shift) accuracy)).2
    rw [hfirst] at hnext
    have hnumber : number < (2 ^ 53 - 1) * (2 * (2 ^ top * den)) :=
      Nat.lt_of_lt_of_le hhigh (Nat.mul_le_mul_right _ (by omega))
    exact iff_of_false (by omega) (by omega)

end

/-- The result of rounding is finite if what is rounded has no great exponent. -/
theorem is_finite_round_of_small {mantissa : Nat} {exponent : Int} (hexponent : exponent ≤ 970)
    (htotal : totalExponent mantissa exponent ≤ 1023) (sign : Sign) (accuracy : Accuracy) :
    (Float.Model.pack
      (roundWithAccuracy Format.binary64 sign mantissa exponent accuracy)).isFinite := by
  refine (is_finite_round_eq sign mantissa exponent accuracy).mpr (.inr ?_)
  rw [totalExponent] at htotal
  rw [firstExponent, shiftOf, target_of_eq]
  split <;> omega

/-- Half way from the greatest double to the next power of two, `2 ^ 1024 - 2 ^ 970`. -/
def doubleLimit : Nat :=
  (2 ^ 54 - 1) * 2 ^ 970

/-- The limit with its exponent apart: no step has to work out the power of two. -/
theorem exists_double_limit_eq : ∃ top : Nat, top = 970 ∧ doubleLimit = (2 ^ 54 - 1) * 2 ^ top :=
  ⟨_, rfl, rfl⟩

theorem double_limit_pos : 0 < doubleLimit := by
  obtain ⟨top, -, hlimit⟩ := exists_double_limit_eq
  rw [hlimit]
  exact Nat.mul_pos (by decide) (Nat.two_pow_pos top)

/-- The limit is less than the power of two that follows the greatest double. -/
theorem double_limit_le {power : Nat} (h : 1024 ≤ power) : doubleLimit ≤ 2 ^ power := by
  obtain ⟨top, htop, hlimit⟩ := exists_double_limit_eq
  rw [hlimit]
  calc (2 ^ 54 - 1) * 2 ^ top ≤ 2 ^ 54 * 2 ^ top := Nat.mul_le_mul_right _ (by decide)
    _ = 2 ^ (54 + top) := (Nat.pow_add 2 54 top).symm
    _ ≤ 2 ^ power := Nat.pow_le_pow_right (by decide) (by omega)

theorem le_double_limit {power : Nat} (h : power ≤ 970) : 2 ^ power ≤ doubleLimit := by
  obtain ⟨top, htop, hlimit⟩ := exists_double_limit_eq
  rw [hlimit]
  exact Nat.le_trans (Nat.pow_le_pow_right (by decide) (by omega))
    (Nat.le_mul_of_pos_left _ (by decide))

/-- A rounded quotient is finite just if it is less than the limit. -/
theorem is_finite_round_iff {mantissa shift number den : Nat} {accuracy : Accuracy}
    (hden : 0 < den)
    (hlocates : Locates (.ofMantissaAndAccuracy mantissa accuracy) (number * 2 ^ shift) den)
    (htarget : -(shift : Int) ≤ targetOf mantissa (-shift)) (sign : Sign) :
    (Float.Model.pack
        (roundWithAccuracy Format.binary64 sign mantissa (-shift) accuracy)).isFinite ↔
      number < doubleLimit * den := by
  obtain ⟨top, htop, hlimit⟩ := exists_double_limit_eq
  have hfirst := (rounded_mantissa_le (firstShifted mantissa (-shift) accuracy)).1
  rw [first_shifted_mantissa] at hfirst
  have hexponent : firstExponent mantissa (-shift) = targetOf mantissa (-shift) := by
    rw [firstExponent, shiftOf]
    omega
  have hsteps : (shiftOf mantissa (-shift) : Int) = targetOf mantissa (-shift) + shift := by
    rw [shiftOf]
    omega
  rw [is_finite_round_eq, hexponent, hlimit, Nat.mul_assoc]
  rcases Int.lt_trichotomy (targetOf mantissa (-shift)) 971 with hless | hequal | hgreater
  · refine iff_of_true (.inr ?_) (lt_limit_of_small hden hlocates (by omega))
    split <;> omega
  · rw [hequal, ← Nat.not_le, ← rounded_eq_iff_of_greatest hden hlocates (by omega)]
    split <;> omega
  · have hpos : 0 < mantissa := by
      refine Nat.pos_of_ne_zero fun hzero => ?_
      rw [hzero, target_of_eq, Nat.log2_zero] at hgreater
      omega
    have hfull := le_shifted hpos htarget (by omega)
    obtain ⟨more, hmore⟩ : ∃ more, shiftOf mantissa (-shift) = shift + (top + 2 + more) :=
      ⟨shiftOf mantissa (-shift) - (shift + (top + 2)), by omega⟩
    refine iff_of_false ?_ (Nat.not_lt.mpr (limit_le_of_great hden hlocates (hmore ▸ hfull)))
    split <;> omega

end TextTemplate.Number
