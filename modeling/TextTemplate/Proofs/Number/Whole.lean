import Mathlib
import TextTemplate.Proofs.Number.Amounts

/-!
# Whole numbers as doubles

The doubles of integers up to two to the power of 53 have their values (`float_amount_of_int`). Such
an integer fits into the significand of a double: it is shifted until the significand is full, and
the zeros that it is filled up with are all that is ever shifted out again, so that nothing is
rounded.
-/

namespace TextTemplate.Number

open Float.Model (Format totalExponent UnpackedFloat)
open Float.Model.UnpackedFloat

/-! ## Results that need no rounding -/

/-- The significand is full, and the exponent is one of a finite double. -/
structure IsNormal (significand : Nat) (exponent : Int) : Prop where
  low : 2 ^ 52 ≤ significand
  high : significand < 2 ^ 53
  least : -1074 ≤ exponent
  greatest : exponent ≤ 971

namespace IsNormal

variable {significand : Nat} {exponent : Int} (h : IsNormal significand exponent)

include h

theorem pos : 0 < significand :=
  lt_of_lt_of_le (by norm_num) h.low

theorem log2_shifted (shift : Nat) : (significand * 2 ^ shift).log2 = 52 + shift := by
  have hpower : 0 < 2 ^ shift := Nat.two_pow_pos shift
  have hpos : significand * 2 ^ shift ≠ 0 := (Nat.mul_pos h.pos hpower).ne'
  refine (Nat.log2_eq_iff hpos).mpr ⟨?_, ?_⟩
  · rw [Nat.pow_add]
    exact Nat.mul_le_mul_right _ h.low
  · rw [Nat.add_right_comm, Nat.pow_add]
    exact Nat.mul_lt_mul_of_pos_right h.high hpower

omit h in
/-- Zeros that are shifted out leave no trace. -/
theorem shift_right_zeros (significand shift : Nat) :
    (⟨significand * 2 ^ shift, false, false⟩ : ExtendedMantissa) >>> shift =
      ⟨significand, false, false⟩ := by
  induction shift generalizing significand with
  | zero =>
      rw [pow_zero, mul_one]
      rfl
  | succ shift ih =>
      show ((⟨significand * 2 ^ (shift + 1), false, false⟩ : ExtendedMantissa) >>>
        shift).shiftRightOne = _
      rw [pow_succ', ← mul_assoc, ih, ExtendedMantissa.shiftRightOne]
      simp

theorem shift_to_target (shift : Nat) :
    shiftToTargetExponent Format.binary64 (significand * 2 ^ shift) (exponent - shift) .exact =
      (⟨significand, false, false⟩, exponent) := by
  have hleast := h.least
  have htarget : Format.binary64.targetExponent
      (totalExponent (significand * 2 ^ shift) (exponent - shift)) = exponent := by
    rw [Format.targetExponent, totalExponent, h.log2_shifted]
    show max ((((52 + shift : Nat) : Int) + 1 + (exponent - shift)) - 53) (-1074) = exponent
    omega
  have hshift : (exponent - (exponent - shift)).toNat = shift := by omega
  rw [shiftToTargetExponent, htarget]
  show ((⟨significand * 2 ^ shift, false, false⟩ : ExtendedMantissa) >>> _, _) = _
  rw [hshift, shift_right_zeros, sub_add_cancel]

/-- A result with zeros below its significand is not rounded. -/
theorem round_shifted (sign : Sign) (shift : Nat) :
    roundWithAccuracy Format.binary64 sign (significand * 2 ^ shift) (exponent - shift) .exact =
      .finite sign significand exponent h.pos := by
  have hagain : shiftToTargetExponent Format.binary64 significand exponent .exact =
      (⟨significand, false, false⟩, exponent) := by
    simpa using h.shift_to_target 0
  have hrounded : (⟨significand, false, false⟩ : ExtendedMantissa).roundedMantissa = significand :=
    rfl
  simp only [roundWithAccuracy, h.shift_to_target, hrounded, hagain, dif_neg h.pos.ne']

/-- The exponent is stored with a bias. -/
theorem exponent_field :
    (BitVec.ofNat 11 (exponent + 1075).toNat).toNat = (exponent + 1075).toNat := by
  have hgreatest := h.greatest
  rw [BitVec.toNat_ofNat, Nat.mod_eq_of_lt (by omega)]

/-- The significand is stored without its first bit. -/
theorem significand_field : (1#1 ++ BitVec.ofNat 52 significand).toNat = significand := by
  have hlow := h.low
  have hhigh := h.high
  have hhidden : twoPow 52 = 4503599627370496 := rfl
  rw [implicit_bit_append, BitVec.toNat_ofNat, hhidden]
  omega

theorem pack_eq (sign : Sign) :
    UnpackedFloat.pack Format.binary64 (.finite sign significand exponent h.pos) =
      packComponents Format.binary64 sign (BitVec.ofNat 11 (exponent + 1075).toNat)
        (BitVec.ofNat 52 significand) := by
  have hleast := h.least
  have hgreatest := h.greatest
  have hlog : significand.log2 = 52 := by
    simpa using h.log2_shifted 0
  have hbiased : (exponent + (Format.binary64.exponentBias : Int) +
      (Format.binary64.mantissaBitsWithoutImplicit : Int)).toNat = (exponent + 1075).toNat := by
    show (exponent + 1023 + 52).toNat = _
    omega
  have hfits : ¬ 2 ^ Format.binary64.exponentBits ≤ (exponent + 1075).toNat + 1 := by
    show ¬ 2048 ≤ _
    omega
  simp only [UnpackedFloat.pack, hbiased, if_neg hfits, hlog]
  rfl

/-- A double with a full significand is unpacked as it was packed. -/
theorem unpack_pack (sign : Sign) :
    (Float.Model.pack (.finite sign significand exponent h.pos)).unpack =
      .finite sign significand exponent h.pos := by
  have hleast := h.least
  have hgreatest := h.greatest
  have hall : BitVec.ofNat 11 (exponent + 1075).toNat ≠ -1#11 := by
    intro heq
    have hvalue : (exponent + 1075).toNat = 2047 := h.exponent_field ▸ congrArg BitVec.toNat heq
    omega
  have hnone : BitVec.ofNat 11 (exponent + 1075).toNat ≠ 0#11 := by
    intro heq
    have hvalue : (exponent + 1075).toNat = 0 := h.exponent_field ▸ congrArg BitVec.toNat heq
    omega
  have hunbiased : ((exponent + 1075).toNat : Int) - ((Format.binary64.exponentBias : Int) +
      (Format.binary64.mantissaBitsWithoutImplicit : Int)) = exponent := by
    show ((exponent + 1075).toNat : Int) - (1023 + 52) = exponent
    omega
  show unpack Format.binary64 (UnpackedFloat.pack Format.binary64 _) = _
  rw [h.pack_eq, unpack]
  simp only [unpackExponent_packComponents, unpackMantissa_packComponents,
    unpackSign_packComponents, Sign.ofBitVec_toBitVec]
  rw [if_neg hall, if_neg hnone]
  simp only [h.significand_field, h.exponent_field, hunbiased]

end IsNormal

/-! ## Whole numbers -/

/-- A whole number that fits into a significand fills it with zeros below. -/
theorem is_normal_of_nat {n : Nat} (hpos : 0 < n) (hn : n < 2 ^ 53) :
    IsNormal (n * 2 ^ (52 - n.log2)) (-((52 - n.log2 : Nat) : Int)) := by
  have hlog : n.log2 < 53 := (Nat.log2_lt hpos.ne').mpr hn
  have hpower : 0 < 2 ^ (52 - n.log2) := Nat.two_pow_pos _
  have hlow : 2 ^ n.log2 * 2 ^ (52 - n.log2) = 2 ^ 52 := by
    rw [← pow_add]
    congr 1
    omega
  have hhigh : 2 ^ (n.log2 + 1) * 2 ^ (52 - n.log2) = 2 ^ 53 := by
    rw [← pow_add]
    congr 1
    omega
  exact
    { low := hlow ▸ Nat.mul_le_mul_right _ (Nat.log2_self_le hpos.ne')
      high := hhigh ▸ Nat.mul_lt_mul_of_pos_right Nat.lt_log2_self hpower
      least := by omega
      greatest := by omega }

/-- A whole number that fits into a significand is not rounded. -/
theorem of_nat_unpacked {n : Nat} (hpos : 0 < n) (hn : n < 2 ^ 53) :
    (Float.Model.ofNat n).unpack = .finite .positive (n * 2 ^ (52 - n.log2))
      (-((52 - n.log2 : Nat) : Int)) (is_normal_of_nat hpos hn).pos := by
  have h := is_normal_of_nat hpos hn
  have hlog : n.log2 < 53 := (Nat.log2_lt hpos.ne').mpr hn
  have htarget : Format.binary64.targetExponent (totalExponent n 0) =
      -((52 - n.log2 : Nat) : Int) := by
    rw [Format.targetExponent, totalExponent]
    show max (((n.log2 : Int) + 1 + 0) - 53) (-1074) = _
    omega
  have hround : round Format.binary64 .positive n 0 =
      .finite .positive (n * 2 ^ (52 - n.log2)) (-((52 - n.log2 : Nat) : Int)) h.pos := by
    have hshift : (0 - -((52 - n.log2 : Nat) : Int)).toNat = 52 - n.log2 := by omega
    rw [UnpackedFloat.round, htarget, decreaseExponent, hshift, Nat.shiftLeft_eq, zero_sub]
    simpa using h.round_shifted .positive 0
  have hnormalize : UnpackedFloat.ofNat Format.binary64 n =
      round Format.binary64 .positive n 0 := by
    have hcompare : compare (n : Int) 0 = .gt := compare_gt_iff_gt.mpr (by omega)
    rw [UnpackedFloat.ofNat, UnpackedFloat.ofInt, UnpackedFloat.normalize, hcompare]
    rfl
  rw [Float.Model.ofNat, hnormalize, hround, h.unpack_pack]

/-- The double of a word that fits into a significand is not rounded. -/
theorem to_float_unpacked {n : Nat} (hpos : 0 < n) (hn : n < 2 ^ 53) :
    n.toUInt64.toFloat.toModel.unpack = .finite .positive (n * 2 ^ (52 - n.log2))
      (-((52 - n.log2 : Nat) : Int)) (is_normal_of_nat hpos hn).pos := by
  have hword : n.toUInt64.toNat = n := by
    show n % 2 ^ 64 = n
    omega
  have hmodel : n.toUInt64.toFloat.toModel = Float.Model.ofNat n := by
    show Float.Model.ofNat n.toUInt64.toNat = _
    rw [hword]
  rw [hmodel]
  exact of_nat_unpacked hpos hn

/-- A multiplication by one does not change a double. -/
theorem unpack_mul_one {x : Float} {sign : Sign} {significand : Nat} {exponent : Int}
    (h : IsNormal significand exponent)
    (hx : x.toModel.unpack = .finite sign significand exponent h.pos) :
    (x * Float.ofBits 4607182418800017408).toModel.unpack =
      .finite sign significand exponent h.pos := by
  have hone : (Float.ofBits 4607182418800017408).toModel.unpack =
      .finite .positive (2 ^ 52) (-52) (by norm_num) := rfl
  have hsign : sign * Sign.positive = sign := by cases sign <;> rfl
  have hround : roundWithAccuracy Format.binary64 sign (significand * 2 ^ 52) (exponent + -52)
      .exact = .finite sign significand exponent h.pos := h.round_shifted sign 52
  show (Float.Model.pack (UnpackedFloat.mul Format.binary64 x.toModel.unpack _)).unpack = _
  rw [hx, hone, UnpackedFloat.mul, hsign, hround, h.unpack_pack]

/-- The double of a positive whole number up to two to the power of 53 has its value. -/
theorem float_of_nat_unpacked {n : Nat} (hpos : 0 < n) (hn : n ≤ 2 ^ 53) :
    ∃ significand exponent, ∃ h : IsNormal significand exponent,
      (Float.ofNat n).toModel.unpack = .finite .positive significand exponent h.pos ∧
        (⟨significand, exponent⟩ : Binary).value = n := by
  rcases hn.lt_or_eq with hless | rfl
  · have hproduct : Float.ofNat n = n.toUInt64.toFloat * Float.ofBits 4607182418800017408 :=
      dif_pos ⟨hless, by omega⟩
    refine ⟨_, _, is_normal_of_nat hpos hless, ?_, ?_⟩
    · rw [hproduct]
      exact unpack_mul_one (is_normal_of_nat hpos hless) (to_float_unpacked hpos hless)
    · rw [Binary.value, zpow_neg, zpow_natCast, Nat.cast_mul, Nat.cast_pow]
      exact mul_inv_cancel_right₀ (by positivity) _
  · refine ⟨2 ^ 52, 1, ⟨by omega, by omega, by omega, by omega⟩, rfl, ?_⟩
    norm_num [Binary.value]

/-- Integers up to two to the power of 53 have doubles of their values. -/
theorem float_amount_of_int {n : Int} (hn : n.natAbs ≤ 2 ^ 53) :
    floatAmount (Float.ofInt n) = .finite n := by
  cases n with
  | ofNat n =>
      rcases n.eq_zero_or_pos with rfl | hpos
      · show FloatShape.amount (.finite false ⟨0, -1074⟩) = _
        simp [FloatShape.amount, Binary.value]
      · obtain ⟨significand, exponent, h, hunpacked, hvalue⟩ := float_of_nat_unpacked hpos hn
        show floatAmount (Float.ofNat n) = _
        rw [floatAmount, shape_eq_unpacked, hunpacked, unpackedShape, FloatShape.amount, hvalue]
        simp
  | negSucc n =>
      obtain ⟨significand, exponent, h, hunpacked, hvalue⟩ :=
        float_of_nat_unpacked (Nat.succ_pos n) hn
      have hneg : (Float.ofInt (.negSucc n)).toModel.unpack =
          .finite .negative significand exponent h.pos := by
        show (Float.Model.pack (Float.ofNat (n + 1)).toModel.unpack.neg).unpack = _
        rw [hunpacked]
        exact h.unpack_pack .negative
      rw [floatAmount, shape_eq_unpacked, hneg, unpackedShape, FloatShape.amount, hvalue]
      simp

end TextTemplate.Number
