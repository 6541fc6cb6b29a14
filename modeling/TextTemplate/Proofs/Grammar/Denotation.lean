import TextTemplate.Proofs.Grammar.Refusals
import TextTemplate.Proofs.Grammar.Shapes
import TextTemplate.Proofs.Number.Nearest
import TextTemplate.Proofs.Time.Formats

/-!
# What literals denote

A literal denotes a value if the integer, the decimal or the index that its digits say lies in the
range of its kind, and if calendar and clocks have the timestamp that it says. The builder finds a
value for just these literals, but for one form of timestamps that it does not admit
(`LiteralKind.is_converted_iff`).
-/

namespace TextTemplate.Grammar

open TextTemplate.Number TextTemplate.Time

/-! ## Literals that denote a value -/

/-- Whether the text is an integer that 64 bits with a sign hold. -/
def IsWordInteger (text : List Char) : Prop :=
  ∃ digits : List Char, (∀ c ∈ digits, c.isDigit) ∧
    (text = digits ∧ ofDigits digits < 2 ^ 63 ∨ text = '-' :: digits ∧ ofDigits digits ≤ 2 ^ 63)

/-- Whether the text is a decimal that is rounded to a finite double: it is less than `doubleLimit`,
whatever its sign. -/
def IsDoubleDecimal (text : List Char) : Prop :=
  ∃ whole fraction : List Char, (∀ c ∈ whole, c.isDigit) ∧ (∀ c ∈ fraction, c.isDigit) ∧
    (text = whole ++ '.' :: fraction ∨ text = '-' :: (whole ++ '.' :: fraction)) ∧
      ofDigits (whole ++ fraction) < doubleLimit * 10 ^ fraction.length

/-- Whether the text is a timestamp that calendar and clocks have. -/
def IsPossibleTimestamp (text : List Char) : Prop :=
  ∃ form : TimestampForm, form.Fits ∧ form.IsPossible ∧ form.chars = text

/-- Whether the text is a timestamp that calendar and clocks have, but that is written with a
numeric offset and without seconds. -/
def IsUnadmittedTimestamp (text : List Char) : Prop :=
  ∃ form : TimestampForm, form.Fits ∧ form.IsPossible ∧ form.isAdmitted = false ∧ form.chars = text

namespace LiteralKind

/-- Whether the text denotes a value as a literal of the kind. -/
def Denotes (text : List Char) : LiteralKind → Prop
  | integer => IsWordInteger text
  | decimal => IsDoubleDecimal text
  | timestamp => IsPossibleTimestamp text
  | captureIndex => ofDigits text < 2 ^ 64

/-- Whether the text denotes a value as a literal of the kind, but in a form that is not
admitted. -/
def Unadmitted (text : List Char) : LiteralKind → Prop
  | timestamp => IsUnadmittedTimestamp text
  | _ => False

/-- A literal in a form that is not admitted denotes a value. -/
theorem Unadmitted.denotes {kind : LiteralKind} {text : List Char} (h : kind.Unadmitted text) :
    kind.Denotes text := by
  cases kind with
  | timestamp =>
      obtain ⟨form, hfits, hpossible, -, hchars⟩ := h
      exact ⟨form, hfits, hpossible, hchars⟩
  | _ => exact h.elim

end LiteralKind

/-! ## Conversions -/

/-- Digits have no minus sign in front. -/
theorem ne_minus_of_is_digit {digits rest : List Char} (h : ∀ c ∈ digits, c.isDigit) :
    digits ≠ '-' :: rest := by
  rintro rfl
  exact absurd (h '-' List.mem_cons_self) (by decide)

theorem int64?_is_some_iff (n : Int) : (int64? n).isSome ↔ -2 ^ 63 ≤ n ∧ n < 2 ^ 63 := by
  rw [int64?]
  split
  · next h => exact iff_of_true rfl h
  · next h => exact iff_of_false Bool.false_ne_true h

theorem uint64?_is_some_iff (n : Nat) : (uint64? n).isSome ↔ n < 2 ^ 64 := by
  rw [uint64?]
  split
  · next h => exact iff_of_true rfl h
  · next h => exact iff_of_false Bool.false_ne_true h

/-- An integer has a value if 64 bits with a sign hold it. -/
theorem int64?_read_integer_iff {text : List Char} (h : IsIntegerText text) :
    (int64? (readInteger text)).isSome ↔ IsWordInteger text := by
  rw [int64?_is_some_iff]
  obtain ⟨digits, hne, hdigits, rfl | rfl⟩ := h
  · rw [read_integer_of_digits hdigits]
    constructor
    · rintro ⟨-, hless⟩
      exact ⟨text, hdigits, .inl ⟨rfl, by omega⟩⟩
    · rintro ⟨others, -, ⟨rfl, hless⟩ | ⟨heq, -⟩⟩
      · exact ⟨by omega, by omega⟩
      · exact absurd heq (ne_minus_of_is_digit hdigits)
  · rw [readInteger]
    constructor
    · rintro ⟨hleast, -⟩
      exact ⟨digits, hdigits, .inr ⟨rfl, by omega⟩⟩
    · rintro ⟨others, hothers, ⟨heq, -⟩ | ⟨heq, hle⟩⟩
      · exact absurd heq.symm (ne_minus_of_is_digit hothers)
      · obtain rfl := (List.cons.inj heq).2
        exact ⟨by omega, by omega⟩

/-- Digits around a point are read as the decimal that they say. -/
theorem read_decimal_eq {whole fraction : List Char} (h : ∀ c ∈ whole, c.isDigit) :
    readDecimal (whole ++ '.' :: fraction) =
      nearestFloat (ofDigits (whole ++ fraction)) (-(fraction.length : Int)) := by
  have hwhole : ∀ c ∈ whole, (c != '.') = true := fun c hc =>
    bne_iff_ne.mpr fun hpoint => absurd (h c hc) (by rw [hpoint]; decide)
  have htake : (whole ++ '.' :: fraction).takeWhile (· != '.') = whole := by
    rw [List.takeWhile_append_of_pos hwhole]
    simp
  have hdrop : (whole ++ '.' :: fraction).dropWhile (· != '.') = '.' :: fraction := by
    rw [List.dropWhile_append_of_pos hwhole]
    simp
  rw [readDecimal, htake, hdrop]
  rfl

/-- Digits around a point are read as a finite double if the decimal is less than the limit. -/
theorem is_finite_read_decimal_iff {whole fraction : List Char} (h : ∀ c ∈ whole, c.isDigit) :
    (readDecimal (whole ++ '.' :: fraction)).isFinite ↔
      ofDigits (whole ++ fraction) < doubleLimit * 10 ^ fraction.length := by
  have hnone : (-(fraction.length : Int)).toNat = 0 := by omega
  have hlength : (- -(fraction.length : Int)).toNat = fraction.length := by omega
  rw [read_decimal_eq h, is_finite_nearest_float_iff, IsBelowLimit, hnone, hlength, Nat.pow_zero,
    Nat.mul_one]

/-- The sign has no part in whether a decimal has a value. -/
theorem float?_is_some_of_text {lexeme : Lexeme} {whole fraction : List Char}
    (h : ∀ c ∈ whole, c.isDigit)
    (htext : lexeme.text = whole ++ '.' :: fraction ∨
      lexeme.text = '-' :: (whole ++ '.' :: fraction)) :
    lexeme.float?.isSome ↔ ofDigits (whole ++ fraction) < doubleLimit * 10 ^ fraction.length := by
  have hminus : ∀ digits, whole ++ '.' :: fraction ≠ '-' :: digits := by
    intro digits heq
    cases whole with
    | nil => cases heq
    | cons c more => exact ne_minus_of_is_digit h (congrArg (· :: more) (List.cons.inj heq).1)
  have hsome : ∀ value : Float,
      (if value.isFinite then some value else none).isSome ↔ value.isFinite := fun value => by
    split <;> simp [*]
  have hfinite : lexeme.float?.isSome ↔ (readDecimal (whole ++ '.' :: fraction)).isFinite := by
    rw [Lexeme.float?]
    rcases htext with htext | htext
    · rw [htext]
      split
      · next digits heq => exact absurd heq (hminus digits)
      · exact hsome _
    · rw [htext]
      exact (hsome _).trans (is_finite_neg_iff _)
  rw [hfinite, is_finite_read_decimal_iff h]

/-- A decimal has a value if it is rounded to a finite double. -/
theorem float?_is_some_iff {lexeme : Lexeme} (h : IsDecimalText lexeme.text) :
    lexeme.float?.isSome ↔ IsDoubleDecimal lexeme.text := by
  obtain ⟨whole, fraction, -, hwhole, -, hfraction, htext⟩ := h
  constructor
  · intro hsome
    exact ⟨whole, fraction, hwhole, hfraction, htext,
      (float?_is_some_of_text hwhole htext).mp hsome⟩
  · rintro ⟨others, behind, hothers, -, htext, hless⟩
    exact (float?_is_some_of_text hothers htext).mpr hless

/-- A timestamp has a value if calendar and clocks have it and its form is admitted. -/
theorem timestamp?_is_some_iff {lexeme : Lexeme}
    (h : ∃ form : TimestampForm, form.Fits ∧ form.chars = lexeme.text) :
    lexeme.timestamp?.isSome ↔
      IsPossibleTimestamp lexeme.text ∧ ¬ IsUnadmittedTimestamp lexeme.text := by
  obtain ⟨text, bytesLeft, bytesAfter⟩ := lexeme
  show (Timestamp.ofLiteral? text).isSome ↔ _
  constructor
  · obtain ⟨form, hfits, rfl⟩ := h
    intro hsome
    obtain ⟨hpossible, -⟩ := (TimestampForm.of_literal?_is_some_iff hfits).mp hsome
    refine ⟨⟨form, hfits, hpossible, rfl⟩, ?_⟩
    rintro ⟨other, hother, -, hunadmitted, hchars⟩
    dsimp only at hchars
    rw [← hchars] at hsome
    have hadmitted := ((TimestampForm.of_literal?_is_some_iff hother).mp hsome).2
    rw [hunadmitted] at hadmitted
    cases hadmitted
  · rintro ⟨⟨form, hfits, hpossible, rfl⟩, hadmitted⟩
    refine (TimestampForm.of_literal?_is_some_iff hfits).mpr ⟨hpossible, ?_⟩
    by_contra hnot
    exact hadmitted ⟨form, hfits, hpossible, Bool.eq_false_iff.mpr hnot, rfl⟩

/-- The builder finds a value for a literal just if the literal denotes one in a form that is
admitted. -/
theorem LiteralKind.is_converted_iff {kind : LiteralKind} {lexeme : Lexeme}
    (h : kind.IsText lexeme.text) :
    kind.isConverted lexeme ↔ kind.Denotes lexeme.text ∧ ¬ kind.Unadmitted lexeme.text := by
  have halways : ∀ {P : Prop}, P ↔ P ∧ ¬ False := fun {P} => by rw [not_false_eq_true, and_true]
  cases kind with
  | integer => exact (int64?_read_integer_iff h).trans halways
  | decimal => exact (float?_is_some_iff h).trans halways
  | timestamp => exact timestamp?_is_some_iff h
  | captureIndex => exact (uint64?_is_some_iff _).trans halways

end TextTemplate.Grammar
