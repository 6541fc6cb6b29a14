import TextTemplate.Json.Float
import TextTemplate.Proofs.Json.Text
import TextTemplate.Proofs.Number.Shortest

/-!
# Numbers as JSON

Integers and doubles have the form that JSON asks of numbers, and integers denote themselves.
-/

namespace TextTemplate.Json

open TextTemplate.Number

/-- Digits without a leading zero make a number with any sign. -/
theorem well_formed_decimal_digits (negative : Bool) (n : Nat) :
    (Numeral.mk negative (decimalDigits n) [] none).WellFormed where
  isDigit_whole := is_digit_of_mem_decimal_digits
  whole_ne_nil := decimal_digits_ne_nil n
  noLeadingZero := fun _ hmore => eq_nil_of_decimal_digits_eq hmore
  isDigit_fraction := nofun
  exponent := nofun

/-- A natural number has a text. -/
theorem well_formed_of_nat (n : Nat) : (Document.ofNat n).WellFormed :=
  .number (well_formed_decimal_digits false n)

/-- An integer has a text. -/
theorem well_formed_of_int (n : Int) : (Document.ofInt n).WellFormed :=
  .number (well_formed_decimal_digits _ n.natAbs)

/-- A layout of a number has a text. -/
theorem well_formed_of_layout {layout : DecimalLayout} (h : layout.IsNumber) (negative : Bool) :
    (Numeral.ofLayout negative layout).WellFormed where
  isDigit_whole := h.isDigit_whole
  whole_ne_nil := h.whole_ne_nil
  noLeadingZero := h.noLeadingZero
  isDigit_fraction := h.isDigit_fraction
  exponent := by
    intro below digits hexponent
    obtain ⟨exponent, -, heq⟩ := Option.map_eq_some_iff.mp hexponent
    obtain ⟨-, rfl⟩ := Prod.mk.inj heq
    exact ⟨decimal_digits_ne_nil _, is_digit_of_mem_decimal_digits⟩

/-- Every double has a text, the finite ones as numbers. -/
theorem well_formed_of_float (x : Float) : (Document.ofFloat x).WellFormed := by
  rw [Document.ofFloat]
  split
  · next negative magnitude hfinite =>
      have hnumber := is_number_layout (Binary.is_double_of_finite hfinite) .interchange
      exact .number (well_formed_of_layout hnumber negative)
  · exact .null

/-- An integer denotes itself. -/
theorem int?_of_int (n : Int) :
    (Numeral.mk (decide (n < 0)) (decimalDigits n.natAbs) [] none).int? = some n := by
  simp only [Numeral.int?, of_digits_decimal_digits, List.isEmpty_nil, Option.isNone_none,
    Bool.and_self, if_true, decide_eq_true_eq]
  split
  · next hnegative =>
      rw [if_neg (by omega)]
      exact congrArg some (by omega)
  · next hpositive => exact congrArg some (by omega)

/-- A 64-bit integer denotes itself. -/
theorem int64?_of_int (value : Int64) :
    (Numeral.mk (decide (value.toInt < 0)) (decimalDigits value.toInt.natAbs) [] none).int64? =
      some value := by
  rw [Numeral.int64?, int?_of_int]
  exact int64?_to_int value

/-- A 64-bit natural number denotes itself. -/
theorem uint64?_of_nat (value : UInt64) :
    (Numeral.mk false (decimalDigits value.toNat) [] none).uint64? = some value := by
  have hvalue : (Numeral.mk false (decimalDigits value.toNat) [] none).int? =
      some (value.toNat : Int) := by
    simp [Numeral.int?, of_digits_decimal_digits]
  rw [Numeral.uint64?, hvalue]
  exact uint64?_to_nat value

end TextTemplate.Json
