import Mathlib
import TextTemplate.Eval.Operators
import TextTemplate.Proofs.Number.Shortest

/-!
# What numbers denote

A finite double denotes a rational number, and no two doubles denote the same one but for the two
zeros (`beq_iff_amount_eq`): the significand of a double is as great as it can be, so that it is
found from the number. The shape of a double is what the arithmetic of doubles takes it apart to
(`shape_eq_unpacked`). A decimal denotes its coefficient over a power of ten.
-/

namespace TextTemplate.Number

open Float.Model (Format UnpackedFloat)
open Float.Model.UnpackedFloat

/-- What a number denotes. -/
inductive Amount where
  | undefined
  | infinite (negative : Bool)
  | finite (value : ℚ)
deriving DecidableEq

/-! ## Doubles -/

namespace Binary

/-- The value of a magnitude. -/
def value (x : Binary) : ℚ :=
  x.significand * 2 ^ x.exponent

/-- The significand of a double is below half of what it can be only with the least exponent. -/
structure IsCanonical (x : Binary) : Prop extends x.IsDouble where
  full : twoPow 52 ≤ x.significand ∨ x.exponent = -1074

theorem value_nonneg (x : Binary) : 0 ≤ x.value :=
  mul_nonneg (Nat.cast_nonneg _) (zpow_nonneg (by norm_num) _)

/-- Of two doubles with one value, the one with the lesser exponent has the greater significand, and
then it would be too great. -/
theorem exponent_le_of_value_eq {x y : Binary} (hx : x.IsCanonical) (hy : y.IsCanonical)
    (h : x.value = y.value) : y.exponent ≤ x.exponent := by
  by_contra hless
  obtain ⟨shift, hshift⟩ : ∃ shift : Nat, y.exponent = x.exponent + (shift + 1 : Nat) :=
    ⟨(y.exponent - x.exponent - 1).toNat, by omega⟩
  have hsignificand : x.significand = y.significand * 2 ^ (shift + 1) := by
    have hpower : (2 : ℚ) ^ x.exponent ≠ 0 := zpow_ne_zero _ (by norm_num)
    rw [value, value, hshift, zpow_add₀ (by norm_num), zpow_natCast, mul_comm (2 ^ x.exponent),
      ← mul_assoc] at h
    exact_mod_cast mul_right_cancel₀ hpower h
  have hfull : twoPow 52 ≤ y.significand := by
    have hlow := hx.exponent.1
    exact hy.full.resolve_right (by omega)
  have hbound : x.significand < twoPow 53 := hx.significand
  have htwice : twoPow 53 = 2 * twoPow 52 := by decide
  have hgrown : y.significand * 2 ≤ y.significand * 2 ^ (shift + 1) :=
    Nat.mul_le_mul_left _ (Nat.le_self_pow (Nat.succ_ne_zero shift) 2)
  omega

/-- A double is found from its value. -/
theorem eq_of_value_eq {x y : Binary} (hx : x.IsCanonical) (hy : y.IsCanonical)
    (h : x.value = y.value) : x = y := by
  have hexponent : x.exponent = y.exponent :=
    le_antisymm (exponent_le_of_value_eq hy hx h.symm) (exponent_le_of_value_eq hx hy h)
  have hpower : (2 : ℚ) ^ y.exponent ≠ 0 := zpow_ne_zero _ (by norm_num)
  have hsignificand : x.significand = y.significand := by
    rw [value, value, hexponent] at h
    exact_mod_cast mul_right_cancel₀ hpower h
  cases x
  cases y
  simp_all

end Binary

/-- A finite double has the magnitude of one, with a significand that is as great as it can be. -/
theorem is_canonical_of_finite {x : Float} {negative : Bool} {magnitude : Binary}
    (h : FloatShape.of x = .finite negative magnitude) : magnitude.IsCanonical := by
  refine ⟨Binary.is_double_of_finite h, ?_⟩
  rw [FloatShape.of] at h
  split at h
  · split at h <;> cases h
  · split at h
    · obtain ⟨-, rfl⟩ := FloatShape.finite.inj h
      exact .inr rfl
    · obtain ⟨-, rfl⟩ := FloatShape.finite.inj h
      exact .inl (Nat.le_add_left _ _)

/-! ## Unpacked doubles -/

/-- The shape of an unpacked double. -/
def unpackedShape : UnpackedFloat → FloatShape
  | .notANumber => .nan
  | .infinity sign => .infinite (sign == .negative)
  | .zero sign => .finite (sign == .negative) ⟨0, -1074⟩
  | .finite sign mantissa exponent _ => .finite (sign == .negative) ⟨mantissa, exponent⟩

/-- The implicit bit in front of a significand. -/
theorem implicit_bit_append (field : BitVec 52) :
    (1#1 ++ field).toNat = field.toNat + twoPow 52 := by
  have hfield : field.toNat < 2 ^ 52 := field.isLt
  have hone : (1#1).toNat = 1 := rfl
  rw [BitVec.toNat_append, ← Nat.shiftLeft_add_eq_or_of_lt hfield, hone, Nat.shiftLeft_eq, one_mul,
    Nat.add_comm]
  rfl

/-- The shape of an unpacked double is found from its fields. -/
theorem unpacked_shape_of_fields (word : BitVec Format.binary64.numBits) :
    unpackedShape (unpack Format.binary64 word) =
      let negative := Sign.ofBitVec (unpackSign word) == .negative
      let biased := (unpackExponent word).toNat
      let fraction := (unpackMantissa word).toNat
      if biased = 2047 then
        if fraction = 0 then .infinite negative else .nan
      else if biased = 0 then .finite negative ⟨fraction, -1074⟩
      else .finite negative ⟨fraction + twoPow 52, (biased : Int) - 1075⟩ := by
  have hall : unpackExponent word = -1#_ ↔ (unpackExponent word).toNat = 2047 :=
    BitVec.toNat_inj.symm
  have hnone : unpackExponent word = 0#_ ↔ (unpackExponent word).toNat = 0 :=
    BitVec.toNat_inj.symm
  have hwhole : unpackMantissa word = 0#_ ↔ (unpackMantissa word).toNat = 0 :=
    BitVec.toNat_inj.symm
  simp only [unpack, hall, hnone, hwhole]
  split
  · split <;> rfl
  · split
    · next hleast =>
        split
        · next hzero =>
            rw [hzero]
            rfl
        · rw [unpackedShape, hleast]
          rfl
    · rw [unpackedShape]
      congr 2
      exact implicit_bit_append _

/-- The fields of a double are numbers read from its bits. -/
theorem unpacked_fields (x : Float) :
    (@unpackExponent Format.binary64 x.toBits.toBitVec).toNat =
        x.toBits.toNat / twoPow 52 % twoPow 11 ∧
      (@unpackMantissa Format.binary64 x.toBits.toBitVec).toNat = x.toBits.toNat % twoPow 52 ∧
      (Sign.ofBitVec (@unpackSign Format.binary64 x.toBits.toBitVec) == .negative) =
        decide (twoPow 63 ≤ x.toBits.toNat) := by
  refine ⟨?_, ?_, ?_⟩
  · rw [unpackExponent_def, BitVec.extractLsb'_toNat, Nat.shiftRight_eq_div_pow]
    rfl
  · rw [unpackMantissa_def, BitVec.extractLsb'_toNat]
    rfl
  · have hbits : x.toBits.toNat < 18446744073709551616 := x.toBits.toNat_lt
    have htop : twoPow 63 = 9223372036854775808 := rfl
    have hpositive : @unpackSign Format.binary64 x.toBits.toBitVec = 0#1 ↔
        ¬ twoPow 63 ≤ x.toBits.toNat := by
      rw [← BitVec.toNat_inj, unpackSign_def, BitVec.extractLsb'_toNat, Nat.shiftRight_eq_div_pow]
      show x.toBits.toNat / 9223372036854775808 % 2 = 0 ↔ _
      omega
    by_cases hless : twoPow 63 ≤ x.toBits.toNat
    · rw [Sign.ofBitVec, if_neg (by rwa [hpositive, not_not]), decide_eq_true hless]
      rfl
    · rw [Sign.ofBitVec, if_pos (hpositive.mpr hless), decide_eq_false hless]
      rfl

/-- A double is taken apart as the arithmetic of doubles does. -/
theorem shape_eq_unpacked (x : Float) : FloatShape.of x = unpackedShape x.toModel.unpack := by
  obtain ⟨hexponent, hmantissa, hsign⟩ := unpacked_fields x
  show FloatShape.of x = unpackedShape (unpack Format.binary64 x.toBits.toBitVec)
  rw [FloatShape.of, unpacked_shape_of_fields, hexponent, hmantissa, hsign]

theorem eq_of_unpacked_shape_eq {x y : UnpackedFloat} (h : unpackedShape x = unpackedShape y) :
    x = y := by
  have hsign : ∀ {first second : Sign}, (first = .negative ↔ second = .negative) →
      first = second := by
    intro first second h
    cases first <;> cases second <;> simp at h ⊢
  cases x with
  | notANumber => cases y <;> simp [unpackedShape] at h ⊢
  | infinity sign =>
      cases y <;> simp [unpackedShape] at h ⊢
      exact hsign h
  | zero sign =>
      cases y <;> simp [unpackedShape] at h ⊢
      · exact hsign h
      · omega
  | finite sign mantissa exponent hpos =>
      cases y <;> simp [unpackedShape] at h ⊢
      · omega
      · exact ⟨hsign h.1, h.2⟩

/-- A double is found from its shape. -/
theorem eq_of_shape_eq {x y : Float} (h : FloatShape.of x = FloatShape.of y) : x = y := by
  rw [shape_eq_unpacked, shape_eq_unpacked] at h
  have hunpacked : unpack Format.binary64 x.toBits.toBitVec =
      unpack Format.binary64 y.toBits.toBitVec := eq_of_unpacked_shape_eq h
  rw [← Float.toBits_inj, ← UInt64.toBitVec_inj]
  show x.toModel.toBits.toBitVec = y.toModel.toBits.toBitVec
  rw [← pack_unpack_of_valid x.toModel.valid, ← pack_unpack_of_valid y.toModel.valid]
  exact congrArg (pack Format.binary64) hunpacked

/-- A double is no number just if its shape is that of none. -/
theorem shape_eq_nan_iff {x : Float} : FloatShape.of x = .nan ↔ x.isNaN := by
  rw [shape_eq_unpacked]
  show _ ↔ x.toModel.unpack.isNaN
  cases x.toModel.unpack <;> simp [unpackedShape, UnpackedFloat.isNaN]

/-! ## What doubles denote -/

/-- What a double denotes. -/
def FloatShape.amount : FloatShape → Amount
  | nan => .undefined
  | infinite negative => .infinite negative
  | finite negative magnitude => .finite (if negative then -magnitude.value else magnitude.value)

/-- What a double denotes. -/
def floatAmount (x : Float) : Amount :=
  (FloatShape.of x).amount

theorem float_amount_eq_undefined_iff {x : Float} : floatAmount x = .undefined ↔ x.isNaN := by
  rw [← shape_eq_nan_iff, floatAmount]
  cases FloatShape.of x <;> simp [FloatShape.amount]

/-- Both zeros denote zero. -/
theorem shape_zero : FloatShape.of 0 = .finite false ⟨0, -1074⟩ ∧
    FloatShape.of (-0) = .finite true ⟨0, -1074⟩ :=
  ⟨rfl, rfl⟩

/-- A double that denotes zero is one of the two zeros. -/
theorem eq_zero_of_shape {x : Float} {negative : Bool} {magnitude : Binary}
    (h : FloatShape.of x = .finite negative magnitude) (hzero : magnitude.value = 0) :
    x = 0 ∨ x = -0 := by
  have hvalue : (⟨0, -1074⟩ : Binary).value = 0 := by simp [Binary.value]
  have hcanonical := is_canonical_of_finite h
  have hmagnitude : magnitude = ⟨0, -1074⟩ :=
    Binary.eq_of_value_eq hcanonical (is_canonical_of_finite shape_zero.1) (hzero.trans hvalue.symm)
  subst hmagnitude
  cases negative with
  | false => exact .inl (eq_of_shape_eq (h.trans shape_zero.1.symm))
  | true => exact .inr (eq_of_shape_eq (h.trans shape_zero.2.symm))

/-- The two zeros denote the same. -/
theorem float_amount_zero : floatAmount 0 = floatAmount (-0) := by
  rw [floatAmount, floatAmount, shape_zero.1, shape_zero.2]
  simp [FloatShape.amount, Binary.value]

/-- Finite doubles of one value are equal, or both zero. -/
theorem eq_or_zero_of_finite {x y : Float} {negative negative' : Bool} {first second : Binary}
    (hx : FloatShape.of x = .finite negative first)
    (hy : FloatShape.of y = .finite negative' second)
    (h : (if negative then -first.value else first.value) =
      if negative' then -second.value else second.value) :
    x = y ∨ first.value = 0 ∧ second.value = 0 := by
  have hfirst := first.value_nonneg
  have hsecond := second.value_nonneg
  by_cases hsign : negative = negative'
  · subst hsign
    have hvalue : first.value = second.value := by
      cases negative with
      | false => exact h
      | true => exact neg_injective h
    have hmagnitude : first = second :=
      Binary.eq_of_value_eq (is_canonical_of_finite hx) (is_canonical_of_finite hy) hvalue
    subst hmagnitude
    exact .inl (eq_of_shape_eq (hx.trans hy.symm))
  · -- Of two signs one is a minus, and then neither value can be positive.
    have hsum : first.value + second.value = 0 := by
      cases negative <;> cases negative' <;> simp at h hsign <;> linarith
    exact .inr ⟨by linarith, by linarith⟩

/-- Doubles that denote the same are equal, or the two zeros. -/
theorem eq_or_zeros_of_amount_eq {x y : Float} (h : floatAmount x = floatAmount y) :
    x = y ∨ (x = 0 ∧ y = -0) ∨ (x = -0 ∧ y = 0) := by
  rw [floatAmount, floatAmount] at h
  cases hshape : FloatShape.of x with
  | nan =>
      rw [hshape] at h
      cases hother : FloatShape.of y with
      | nan => exact .inl (eq_of_shape_eq (hshape.trans hother.symm))
      | _ => simp [hother, FloatShape.amount] at h
  | infinite negative =>
      rw [hshape] at h
      cases hother : FloatShape.of y with
      | infinite negative' =>
          rw [hother, FloatShape.amount, FloatShape.amount, Amount.infinite.injEq] at h
          exact .inl (eq_of_shape_eq (by rw [hshape, hother, h]))
      | _ => simp [hother, FloatShape.amount] at h
  | finite negative magnitude =>
      rw [hshape] at h
      cases hother : FloatShape.of y with
      | finite negative' magnitude' =>
          rw [hother, FloatShape.amount, FloatShape.amount, Amount.finite.injEq] at h
          rcases eq_or_zero_of_finite hshape hother h with heq | ⟨hzero, hzero'⟩
          · exact .inl heq
          · rcases eq_zero_of_shape hshape hzero with rfl | rfl <;>
              rcases eq_zero_of_shape hother hzero' with rfl | rfl <;> simp
      | _ => simp [hother, FloatShape.amount] at h

/-- Doubles that are numbers compare as equal just if they denote the same. -/
theorem beq_iff_amount_eq {x y : Float} (hx : x.isNaN = false) (hy : y.isNaN = false) :
    (x == y) = true ↔ floatAmount x = floatAmount y := by
  have hxnumber : x ≠ Float.nan := by simpa using hx
  have hynumber : y ≠ Float.nan := by simpa using hy
  rw [Float.beq_iff_ne_nan_and_eq]
  constructor
  · rintro ⟨-, -, rfl | ⟨rfl, rfl⟩ | ⟨rfl, rfl⟩⟩
    · rfl
    · exact float_amount_zero
    · exact float_amount_zero.symm
  · intro h
    exact ⟨hxnumber, hynumber, eq_or_zeros_of_amount_eq h⟩

/-- A double is not less than an equal one. -/
theorem not_lt_of_beq {x y : Float} (h : (x == y) = true) : ¬ x < y := by
  -- One comparison of the unpacked doubles decides both.
  have hequal : (x.toModel.unpack.compare y.toModel.unpack == some .eq) = true := h
  intro hless
  have hlt : decide (x.toModel < y.toModel) = true := hless
  rw [decide_eq_true_eq] at hlt
  have hcompare : (x.toModel.unpack.compare y.toModel.unpack == some .lt) = true := hlt
  rw [beq_iff_eq] at hequal hcompare
  rw [hequal] at hcompare
  cases hcompare

/-- Doubles are found to be equal by their order just if they compare as equal. -/
theorem compare_floats_eq_iff {x y : Float} :
    Value.compareFloats x y = some .eq ↔ (x == y) = true := by
  rw [Value.compareFloats]
  constructor
  · intro h
    split at h
    · cases h
    · split at h
      · cases h
      · split at h
        · next hequal => exact hequal
        · cases h
  · intro h
    rw [if_neg (not_lt_of_beq h), if_neg (not_lt_of_beq (BEq.symm h)), if_pos h]

/-! ## Decimals -/

namespace Decimal

/-- The value of a decimal. -/
def value (x : Decimal) : ℚ :=
  x.signedCoefficient / 10 ^ x.scale

/-- At a scale that is not smaller than its own, a decimal has the coefficient that its value
demands. -/
theorem coefficient_at_eq {x : Decimal} {scale : Nat} (h : x.scale ≤ scale) :
    (x.coefficientAt scale : ℚ) = x.value * 10 ^ scale := by
  have hpower : (10 : ℚ) ^ x.scale ≠ 0 := pow_ne_zero _ (by norm_num)
  have hsplit : (10 : ℚ) ^ scale = 10 ^ (scale - x.scale) * 10 ^ x.scale := by
    rw [← pow_add, Nat.sub_add_cancel h]
  have hten : tenPow (scale - x.scale) = 10 ^ (scale - x.scale) := rfl
  rw [coefficientAt, value, hsplit, hten]
  push_cast
  field_simp

/-- Decimals compare as equal just if they have one value. -/
theorem compare_eq_iff {x y : Decimal} : x.compare y = .eq ↔ x.value = y.value := by
  have hpower : (10 : ℚ) ^ max x.scale y.scale ≠ 0 := pow_ne_zero _ (by norm_num)
  rw [compare, compare_eq_iff_eq, ← @Int.cast_inj ℚ, coefficient_at_eq (le_max_left _ _),
    coefficient_at_eq (le_max_right _ _)]
  exact mul_left_inj' hpower

/-- An integer has the same value as a decimal. -/
theorem value_of_int (n : Int) : (ofInt n).value = n := by
  have hcoefficient : (ofInt n).signedCoefficient = n := by
    by_cases hn : n < 0
    · have hpositive : n.natAbs ≠ 0 := by omega
      simp only [ofInt, signed, signedCoefficient, hn, decide_true, Bool.true_and, bne_iff_ne,
        ne_eq, hpositive, not_false_eq_true, if_true]
      omega
    · simp only [ofInt, signed, signedCoefficient, hn, decide_false, Bool.false_and,
        Bool.false_eq_true, if_false]
      omega
  rw [value, hcoefficient]
  simp [ofInt, signed]

end Decimal

end TextTemplate.Number
