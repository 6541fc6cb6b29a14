import Mathlib.Algebra.Group.Nat.Defs
import Mathlib.Data.List.Induction
import TextTemplate.Number.Word
import TextTemplate.Grammar.Literal

/-!
# Laws of digits

The decimal digits of a number are decimal digits, of which there is at least one, and they read
back as the number; padding them with zeros changes neither, and nothing else reads back as the
number (`exists_zeros_decimal_digits`). `read_integer_integer_digits` says the same of integers with
their sign.
-/

namespace TextTemplate.Number

/-- Below ten, the digit of a value is the usual one. -/
theorem digit_char_eq {value : Nat} (h : value < 10) : digitChar value = value.digitChar := by
  revert value
  decide

/-- With enough steps, the digits of a number are put in front of what is there. -/
theorem digits_onto_eq {steps n : Nat} (h : n < steps) (later : List Char) :
    digitsOnto 10 steps n later = Nat.toDigits 10 n ++ later := by
  induction steps generalizing n later with
  | zero => exact absurd h (Nat.not_lt_zero n)
  | succ steps ih =>
      rw [digitsOnto, Nat.toDigits_eq_if (by decide)]
      split
      · next hlt =>
          rw [Nat.mod_eq_of_lt hlt, digit_char_eq hlt]
          rfl
      · next hge =>
          have hdiv : n / 10 < steps := by omega
          rw [ih hdiv, digit_char_eq (Nat.mod_lt n (by decide)), List.append_assoc]
          rfl

/-- Decimal digits are the usual ones. -/
theorem decimal_digits_eq (n : Nat) : decimalDigits n = Nat.toDigits 10 n := by
  rw [decimalDigits, digitsIn, digits_onto_eq (Nat.lt_succ_self n), List.append_nil]

/-- Decimal digits are digits. -/
theorem is_digit_of_mem_decimal_digits {n : Nat} : ∀ c ∈ decimalDigits n, c.isDigit := by
  rw [decimal_digits_eq]
  exact fun _ hc => Nat.isDigit_of_mem_toDigits (by decide) (by decide) hc

/-- Every number has a digit. -/
theorem decimal_digits_ne_nil (n : Nat) : decimalDigits n ≠ [] := by
  rw [decimal_digits_eq]
  exact Nat.toDigits_ne_nil

/-- A number has at most as many digits as a power of ten above it says. -/
theorem length_decimal_digits_le {n width : Nat} (hwidth : 0 < width) (h : n < 10 ^ width) :
    (decimalDigits n).length ≤ width := by
  rw [decimal_digits_eq]
  exact (Nat.length_toDigits_le_iff (by decide) hwidth).mpr h

/-- Reading digits is the usual one. -/
theorem of_digits_eq (digits : List Char) : ofDigits digits = Nat.ofDigitChars 10 digits 0 := by
  rw [ofDigits, Nat.ofDigitChars_eq_foldl]
  rfl

/-- The digits of a number read back as the number. -/
theorem of_digits_decimal_digits (n : Nat) : ofDigits (decimalDigits n) = n := by
  rw [of_digits_eq, decimal_digits_eq, Nat.ofDigitChars_ten_toDigits]

/-- The value of a digit is below ten. -/
theorem digit_value_lt {c : Char} (h : c.isDigit) : digitValue c < 10 := by
  simp only [Char.isDigit, Bool.and_eq_true, decide_eq_true_eq] at h
  have hnine : c.toNat ≤ 57 := h.2
  rw [digitValue]
  omega

/-- Each further digit makes a number at most ten times and nine greater. -/
theorem foldl_digits_lt {digits : List Char} (h : ∀ c ∈ digits, c.isDigit) (start : Nat) :
    digits.foldl (fun value c => 10 * value + digitValue c) start <
      (start + 1) * 10 ^ digits.length := by
  induction digits generalizing start with
  | nil => simp
  | cons c rest ih =>
      have hc := digit_value_lt (h c List.mem_cons_self)
      have hrest := ih (fun d hd => h d (List.mem_cons_of_mem _ hd)) (10 * start + digitValue c)
      rw [List.foldl_cons, List.length_cons, Nat.pow_succ]
      calc rest.foldl (fun value c => 10 * value + digitValue c) (10 * start + digitValue c)
          < (10 * start + digitValue c + 1) * 10 ^ rest.length := hrest
        _ ≤ (10 * (start + 1)) * 10 ^ rest.length := Nat.mul_le_mul_right _ (by omega)
        _ = (start + 1) * (10 ^ rest.length * 10) := by
            rw [Nat.mul_comm 10, Nat.mul_assoc, Nat.mul_comm 10]

/-- Digits read as less than the power of ten that their number says. -/
theorem of_digits_lt {digits : List Char} (h : ∀ c ∈ digits, c.isDigit) :
    ofDigits digits < 10 ^ digits.length := by
  have hfold := foldl_digits_lt h 0
  rwa [Nat.zero_add, Nat.one_mul] at hfold

/-! ## Digits with leading zeros -/

/-- Padded digits are digits. -/
theorem is_digit_of_mem_padded_digits {width n : Nat} :
    ∀ c ∈ paddedDigits width n, c.isDigit := by
  intro c hc
  rcases List.mem_append.mp hc with hc | hc
  · rw [List.eq_of_mem_replicate hc]
    rfl
  · exact is_digit_of_mem_decimal_digits c hc

/-- A number that fits the width is padded to exactly the width. -/
theorem length_padded_digits {width n : Nat} (hwidth : 0 < width) (h : n < 10 ^ width) :
    (paddedDigits width n).length = width := by
  have hle := length_decimal_digits_le hwidth h
  rw [paddedDigits, List.length_append, List.length_replicate]
  omega

/-- Padded digits read back as the number. -/
theorem of_digits_padded_digits (width n : Nat) : ofDigits (paddedDigits width n) = n := by
  rw [paddedDigits, of_digits_eq, Nat.ofDigitChars_append, Nat.ofDigitChars_replicate_zero,
    Nat.mul_zero, ← of_digits_eq, of_digits_decimal_digits]

/-- Digits in front of others count as much more as there are others. -/
theorem of_digits_append (first second : List Char) :
    ofDigits (first ++ second) = 10 ^ second.length * ofDigits first + ofDigits second := by
  rw [of_digits_eq, of_digits_eq, of_digits_eq, Nat.ofDigitChars_append,
    Nat.ofDigitChars_eq_ofDigitChars_zero]

/-- Zeros in front of digits count nothing. -/
theorem of_digits_zeros_append (zeros : Nat) (digits : List Char) :
    ofDigits (List.replicate zeros '0' ++ digits) = ofDigits digits := by
  rw [of_digits_eq, of_digits_eq, Nat.ofDigitChars_append, Nat.ofDigitChars_replicate_zero,
    Nat.mul_zero]

/-- A single digit is the digit of its value. -/
theorem decimal_digits_digit_value {c : Char} (h : c.isDigit) :
    decimalDigits (digitValue c) = [c] := by
  have hvalue := digit_value_lt h
  simp only [Char.isDigit, Bool.and_eq_true, decide_eq_true_eq] at h
  have hzero : 48 ≤ c.toNat := h.1
  have hsum : 48 + (c.toNat - 48) = c.toNat := by omega
  rw [decimal_digits_eq, Nat.toDigits_of_lt_base hvalue, ← digit_char_eq hvalue, digitChar,
    if_pos hvalue, digitValue, hsum, Char.ofNat_toNat]

/-- A further digit stands behind the digits of a positive number. -/
theorem decimal_digits_append_digit {n : Nat} (hn : 0 < n) {c : Char} (h : c.isDigit) :
    decimalDigits (10 * n + digitValue c) = decimalDigits n ++ [c] := by
  rw [← decimal_digits_digit_value h, decimal_digits_eq, decimal_digits_eq, decimal_digits_eq,
    Nat.toDigits_append_toDigits (by decide) hn (digit_value_lt h)]

/-- Zeros and the digits of a number are all that reads as the number. -/
theorem exists_zeros_decimal_digits {digits : List Char} (hne : digits ≠ [])
    (h : ∀ c ∈ digits, c.isDigit) :
    ∃ zeros, digits = List.replicate zeros '0' ++ decimalDigits (ofDigits digits) := by
  -- The induction adds digits behind, as the digits of a greater number are made.
  induction digits using List.reverseRecOn with
  | nil => exact absurd rfl hne
  | append_singleton first c ih =>
      obtain ⟨hfirst, hc⟩ := List.forall_mem_append.mp h
      have hlast : c.isDigit := hc c List.mem_cons_self
      have hdigit : ofDigits [c] = digitValue c := Nat.zero_add _
      have htotal : ofDigits (first ++ [c]) = 10 * ofDigits first + digitValue c := by
        rw [of_digits_append, hdigit, List.length_singleton, Nat.pow_one]
      cases first with
      | nil =>
          refine ⟨0, ?_⟩
          rw [List.nil_append, hdigit, decimal_digits_digit_value hlast]
          rfl
      | cons d more =>
          obtain ⟨zeros, hzeros⟩ := ih (List.cons_ne_nil d more) hfirst
          by_cases hvalue : ofDigits (d :: more) = 0
          · -- Zeros before the last digit are all in front.
            have hzero : decimalDigits 0 = List.replicate 1 '0' := rfl
            rw [hvalue, hzero, List.replicate_append_replicate] at hzeros
            refine ⟨zeros + 1, ?_⟩
            rw [htotal, hvalue, hzeros, Nat.mul_zero, Nat.zero_add,
              decimal_digits_digit_value hlast]
          · refine ⟨zeros, ?_⟩
            rw [htotal, decimal_digits_append_digit (by omega) hlast, ← List.append_assoc, ← hzeros]

/-- The digits of a number begin with zero only for zero itself. -/
theorem eq_nil_of_decimal_digits_eq {n : Nat} {more : List Char}
    (h : decimalDigits n = '0' :: more) : more = [] := by
  by_contra hne
  have hdigits : ∀ c ∈ more, c.isDigit := fun c hc =>
    is_digit_of_mem_decimal_digits c (h ▸ List.mem_cons_of_mem _ hc)
  -- Behind a zero stand too few digits for the number.
  have hvalue : n = ofDigits more := by
    rw [← of_digits_decimal_digits n, h]
    rfl
  have hlength := length_decimal_digits_le (List.length_pos_iff.mpr hne)
    (hvalue ▸ of_digits_lt hdigits : n < 10 ^ more.length)
  rw [h, List.length_cons] at hlength
  exact absurd hlength (Nat.not_succ_le_self _)

/-- The digits of a positive number do not begin with zero. -/
theorem exists_decimal_digits_eq {n : Nat} (h : 0 < n) :
    ∃ c more, decimalDigits n = c :: more ∧ c ≠ '0' := by
  obtain ⟨c, more, hcons⟩ := List.exists_cons_of_ne_nil (decimal_digits_ne_nil n)
  refine ⟨c, more, hcons, ?_⟩
  rintro rfl
  have hvalue := of_digits_decimal_digits n
  rw [hcons, eq_nil_of_decimal_digits_eq hcons] at hvalue
  exact absurd hvalue (Nat.ne_of_lt h)

/-! ## Integers -/

/-- Reading an integer without a sign reads its digits. -/
theorem read_integer_of_digits {digits : List Char} (h : ∀ c ∈ digits, c.isDigit) :
    Grammar.readInteger digits = ofDigits digits := by
  rw [Grammar.readInteger.eq_def]
  split
  · next rest =>
      have hminus : '-'.isDigit := h '-' List.mem_cons_self
      simp at hminus
  · rfl

/-- The digits of an integer with its sign read back as the integer. -/
theorem read_integer_integer_digits (n : Int) : Grammar.readInteger (integerDigits n) = n := by
  cases n with
  | ofNat magnitude =>
      rw [integerDigits, read_integer_of_digits is_digit_of_mem_decimal_digits,
        of_digits_decimal_digits]
      rfl
  | negSucc magnitude =>
      rw [integerDigits, Grammar.readInteger, of_digits_decimal_digits]
      rfl

/-- Every 64-bit integer is one. -/
theorem int64?_to_int (value : Int64) : int64? value.toInt = some value := by
  have hlow : -9223372036854775808 ≤ value.toInt := Int64.le_toInt value
  have hhigh : value.toInt < 9223372036854775808 := Int64.toInt_lt value
  rw [int64?, if_pos ⟨hlow, hhigh⟩, Int64.ofInt_toInt]

/-- A 64-bit integer is one for its own value only. -/
theorem to_int_of_int64? {n : Int} {value : Int64} (h : int64? n = some value) :
    value.toInt = n := by
  simp only [int64?, Option.ite_none_right_eq_some, Option.some.injEq] at h
  obtain ⟨⟨hlow, hhigh⟩, rfl⟩ := h
  exact Int64.toInt_ofInt_of_le hlow hhigh

/-- Every 64-bit natural number is one. -/
theorem uint64?_to_nat (value : UInt64) : uint64? value.toNat = some value := by
  rw [uint64?, if_pos value.toNat_lt, UInt64.ofNat_toNat]

end TextTemplate.Number
