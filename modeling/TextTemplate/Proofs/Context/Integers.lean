import TextTemplate.Proofs.Context.Normalize
import TextTemplate.Proofs.Expr.Scalars

/-!
# Host strings that are read as integers

A source is an integer literal if it is digits, with a minus sign in front or not
(`parse_eq_int_iff`). A host string of several digits that begins with a zero is kept, so that the
integers without a sign are read from nothing but their own text. A minus sign hides such a zero: a
string that begins with a minus sign and a zero may be read as an integer, and then its text is
lost (`Value.of_host_text_reads_integer_texts`).
-/

namespace TextTemplate

open TextTemplate.Grammar TextTemplate.Grammar.Parser TextTemplate.Number

namespace Grammar

variable {cs rest : List Char} {lexeme : Lexeme}

/-! ## The text of an integer -/

/-- A scalar that is an integer is read by the rule for integers. -/
theorem reads?_integer_of_scalar (h : scalar.reads? cs = some (.integer lexeme, rest)) :
    integer.reads? cs = some (.integer lexeme, rest) := by
  simp only [scalar, reads?_one_of_cons, reads?_one_of_nil, Option.or_eq_some_iff] at h
  rcases h with h | ⟨-, h | ⟨-, h | ⟨-, h | ⟨-, h⟩⟩⟩⟩
  · simp only [Grammar.timestamp, reads?_rule, reads?_bind, reads?_pure,
      Option.bind_eq_some_iff] at h
    obtain ⟨⟨_, _⟩, -, h⟩ := h
    cases h
  · simp only [decimal, reads?_rule, reads?_bind, reads?_pure, Option.bind_eq_some_iff] at h
    obtain ⟨⟨_, _⟩, -, h⟩ := h
    cases h
  · exact h
  · simp only [boolean, reads?_rule, reads?_bind, reads?_pure, Option.bind_eq_some_iff] at h
    obtain ⟨⟨_, _⟩, -, ⟨_, _⟩, -, h⟩ := h
    cases h
  · cases h

/-- A run of digits that is read to the end is all digits. -/
theorem is_digit_of_digits_read {read : Unit} (h : digits.reads? cs = some (read, [])) :
    cs ≠ [] ∧ ∀ c ∈ cs, c.isDigit := by
  cases cs with
  | nil => cases h
  | cons c cs =>
      simp only [digits, reads?_bind, reads?_take_while1_cons, reads?_pure] at h
      split at h
      · next hc =>
          have hdrop : cs.dropWhile Char.isDigit = [] := (Prod.mk.inj (Option.some.inj h)).2
          refine ⟨List.cons_ne_nil c cs, List.forall_mem_cons.mpr ⟨hc, ?_⟩⟩
          exact List.dropWhile_eq_nil_iff.mp hdrop
      · cases h

/-- An integer that is read to the end is digits, with a minus sign or not. -/
theorem is_integer_text_of_integer_read {phrase : Phrase}
    (h : integer.reads? cs = some (phrase, [])) : IsIntegerText cs := by
  simp only [integer, reads?_rule, reads?_bind, reads?_pure, Follows.reads?_lexeme_eq, sign,
    reads?_optional, Option.bind_some] at h
  obtain ⟨⟨lexeme, after⟩, hlexeme, h⟩ := Option.bind_eq_some_iff.mp h
  obtain ⟨⟨read, left⟩, hread, heq⟩ := Option.map_eq_some_iff.mp hlexeme
  obtain rfl : left = [] := (Prod.mk.inj heq).2.trans (Prod.mk.inj (Option.some.inj h)).2
  cases cs with
  | nil => cases hread
  | cons c cs =>
      rw [reads?_char_cons] at hread
      split at hread
      · next hc =>
          obtain ⟨hne, hdigits⟩ := is_digit_of_digits_read hread
          exact ⟨cs, hne, hdigits, .inr (hc ▸ rfl)⟩
      · obtain ⟨hne, hdigits⟩ := is_digit_of_digits_read hread
        exact ⟨c :: cs, hne, hdigits, .inl rfl⟩

/-- The scalar that takes all of the characters is an integer if they are one. -/
theorem scalar_integer_iff :
    scalar.reads? cs = some (.integer lexeme, []) ↔
      IsIntegerText cs ∧ lexeme = ⟨cs, byteCount cs, 0⟩ := by
  have hread : IsIntegerText cs →
      integer.reads? cs = some (.integer ⟨cs, byteCount cs, 0⟩, []) := by
    intro htext
    have hinteger := reads?_integer htext (Stops.nil _)
    rwa [List.append_nil] at hinteger
  constructor
  · intro h
    have hinteger := reads?_integer_of_scalar h
    have htext := is_integer_text_of_integer_read hinteger
    rw [hread htext, Option.some.injEq, Prod.mk.injEq, Phrase.integer.injEq] at hinteger
    exact ⟨htext, hinteger.1.symm⟩
  · rintro ⟨htext, rfl⟩
    have htimestamp := reads?_timestamp_integer_text htext (Stops.nil _)
    have hdecimal := reads?_decimal_integer_text htext (Stops.nil _)
    rw [List.append_nil] at htimestamp hdecimal
    simp [scalar, htimestamp, hdecimal, hread htext]

/-- A source is an integer literal if it is digits, with a minus sign in front or not, that denote
the integer. -/
theorem parse_eq_int_iff {source : String} {value : Int64} :
    Literal.parse source = .ok (.int value) ↔
      IsIntegerText source.toList ∧ readInteger source.toList = value.toInt := by
  constructor
  · intro h
    obtain ⟨phrase, hscalar, hread⟩ := exists_scalar_of_parse h
    rw [Phrase.read] at hread
    split at hread
    · next expr hexpr =>
        obtain rfl := Except.ok.inj hread
        cases scalar_phrase_of_reads? hscalar with
        | integer lexeme =>
            obtain ⟨htext, rfl⟩ := scalar_integer_iff.mp hscalar
            obtain ⟨found, hfound, heq⟩ := exists_of_checked hexpr
            obtain rfl : value = found := by injection heq with h; injection h
            exact ⟨htext, (to_int_of_int64? hfound).symm⟩
        | decimal lexeme =>
            obtain ⟨found, -, heq⟩ := exists_of_checked hexpr
            cases heq
        | timestamp lexeme =>
            obtain ⟨found, -, heq⟩ := exists_of_checked hexpr
            cases heq
        | boolean found => cases hexpr
    · cases hread
  · rintro ⟨htext, hvalue⟩
    rw [parse_literal_of_scalar (scalar_integer_iff.mpr ⟨htext, rfl⟩), Phrase.read, Phrase.toExpr,
      Lexeme.int64?, hvalue, int64?_to_int]
    rfl

end Grammar

namespace Value

variable {options : ContextOptions} {text : String} {value : Int64}

/-! ## Leading zeros -/

/-- The digits of a number have no leading zero. -/
theorem has_leading_zero_decimal_digits {n : Nat} (h : text.toList = decimalDigits n) :
    hasLeadingZero text = false := by
  rw [hasLeadingZero]
  split
  · next next rest heq => cases eq_nil_of_decimal_digits_eq (h.symm.trans heq)
  · rfl

/-- Digits without a leading zero are those of their number. -/
theorem eq_decimal_digits_of_has_leading_zero (hne : text.toList ≠ [])
    (hdigits : ∀ c ∈ text.toList, c.isDigit) (h : hasLeadingZero text = false) :
    text.toList = decimalDigits (ofDigits text.toList) := by
  obtain ⟨zeros, hzeros⟩ := exists_zeros_decimal_digits hne hdigits
  cases zeros with
  | zero => exact hzeros
  | succ zeros =>
      -- Behind the first zero stand the digits of the number, so that there are several.
      obtain ⟨c, more, hmore⟩ : ∃ c more,
          List.replicate zeros '0' ++ decimalDigits (ofDigits text.toList) = c :: more := by
        refine List.exists_cons_of_ne_nil fun hnil => ?_
        exact decimal_digits_ne_nil _ (List.append_eq_nil_iff.mp hnil).2
      rw [List.replicate_succ, List.cons_append, hmore] at hzeros
      rw [hzeros] at hdigits
      have hall : (c :: more).all Char.isDigit :=
        List.all_eq_true.mpr fun d hd => hdigits d (List.mem_cons_of_mem _ hd)
      rw [hasLeadingZero, hzeros] at h
      exact absurd hall (Bool.eq_false_iff.mp h)

/-- A host string is read as an integer if it is one and has no leading zero. -/
theorem of_host_text_eq_int_iff (hskip : options.skipEvaluation = false) :
    ofHostText options text = int value ↔ hasLeadingZero text = false ∧
      IsIntegerText text.toList ∧ readInteger text.toList = value.toInt := by
  rw [ofHostText, hskip, ← parse_eq_int_iff]
  cases hasLeadingZero text with
  | true => simp
  | false =>
      cases Literal.parse text with
      | error error => simp
      | ok literal => cases literal <;> simp [Literal.value]

/-! ## Lost text -/

/-- A minus sign stands in front of a zero. -/
def BeginsMinusZero (text : String) : Prop :=
  ['-', '0'] <+: text.toList

/-- The text of an integer has no zero behind a minus sign. -/
theorem not_begins_minus_zero_integer_text (n : Int) : ¬ BeginsMinusZero (integerText n) := by
  rintro ⟨rest, hrest⟩
  rw [integerText, String.toList_ofList] at hrest
  cases n with
  | ofNat magnitude =>
      have hminus : '-'.isDigit :=
        is_digit_of_mem_decimal_digits '-' (show '-' ∈ integerDigits magnitude from
          hrest ▸ List.mem_cons_self)
      cases hminus
  | negSucc magnitude =>
      obtain ⟨c, more, hcons, hc⟩ := exists_decimal_digits_eq (Nat.succ_pos magnitude)
      rw [integerDigits, hcons] at hrest
      exact hc (List.cons.inj (List.cons.inj hrest).2).1.symm

/-- A minus sign, zeros and the digits of an integer are its text, or begin with a minus sign and a
zero. -/
theorem eq_integer_text_or_begins_minus_zero {n : Int} (hn : n ≤ 0) {zeros : Nat}
    (h : text.toList = '-' :: (List.replicate zeros '0' ++ decimalDigits n.natAbs)) :
    text = integerText n ∨ BeginsMinusZero text := by
  cases zeros with
  | succ zeros =>
      rw [List.replicate_succ, List.cons_append] at h
      exact .inr ⟨_, h.symm⟩
  | zero =>
      cases n with
      | ofNat magnitude =>
          obtain rfl : magnitude = 0 := Nat.le_zero.mp (Int.ofNat_le.mp hn)
          exact .inr ⟨[], h.symm⟩
      | negSucc magnitude =>
          have hchars : text.toList = integerDigits (.negSucc magnitude) := h
          left
          rw [integerText, ← hchars, String.ofList_toList]

/-- With strings evaluated, a host string is read as an integer if it is the text of the integer, or
if the integer is not positive and further zeros stand behind the minus sign. -/
theorem of_host_text_eq_int_iff_text (hskip : options.skipEvaluation = false) :
    ofHostText options text = int value ↔ text = integerText value.toInt ∨
      value.toInt ≤ 0 ∧ ∃ zeros, text.toList =
        '-' :: (List.replicate zeros '0' ++ decimalDigits value.toInt.natAbs) := by
  rw [of_host_text_eq_int_iff hskip]
  constructor
  · rintro ⟨hzero, ⟨digits, hne, hdigits, htext | htext⟩, hvalue⟩
    · -- Without a sign the leading zeros are ruled out.
      left
      rw [← htext] at hne hdigits
      have hchars := eq_decimal_digits_of_has_leading_zero hne hdigits hzero
      rw [read_integer_of_digits hdigits] at hvalue
      rw [integerText, ← hvalue, integerDigits.eq_def]
      show text = String.ofList (decimalDigits (ofDigits text.toList))
      rw [← hchars, String.ofList_toList]
    · right
      obtain ⟨zeros, hzeros⟩ := exists_zeros_decimal_digits hne hdigits
      rw [htext, readInteger] at hvalue
      have hmagnitude : value.toInt.natAbs = ofDigits digits := by omega
      refine ⟨by omega, zeros, ?_⟩
      rw [htext, hmagnitude, ← hzeros]
  · rintro (rfl | ⟨hvalue, zeros, htext⟩)
    · have hchars : (integerText value.toInt).toList = integerDigits value.toInt :=
        String.toList_ofList
      rw [hchars, read_integer_integer_digits]
      refine ⟨?_, is_integer_text_integer_digits _, rfl⟩
      cases hinteger : value.toInt with
      | ofNat magnitude => exact has_leading_zero_decimal_digits String.toList_ofList
      | negSucc magnitude =>
          refine has_leading_zero_of_dash ?_
          rw [integerText, String.toList_ofList]
          exact List.mem_cons_self
    · have hdash : '-' ∈ text.toList := htext ▸ List.mem_cons_self
      refine ⟨has_leading_zero_of_dash hdash, ?_, ?_⟩
      · refine ⟨_, ?_, ?_, .inr htext⟩
        · exact List.append_ne_nil_of_right_ne_nil _ (decimal_digits_ne_nil _)
        · refine List.forall_mem_append.mpr ⟨?_, is_digit_of_mem_decimal_digits⟩
          intro c hc
          rw [List.eq_of_mem_replicate hc]
          rfl
      · rw [htext, readInteger, of_digits_zeros_append, of_digits_decimal_digits]
        omega

/-- Unless it begins with a minus sign and a zero, only the text of an integer is read as the
integer. -/
theorem eq_integer_text_of_of_host_text (hskip : options.skipEvaluation = false)
    (hminus : ¬ BeginsMinusZero text) (h : ofHostText options text = int value) :
    text = integerText value.toInt := by
  rcases (of_host_text_eq_int_iff_text hskip).mp h with htext | ⟨hvalue, zeros, htext⟩
  · exact htext
  · exact (eq_integer_text_or_begins_minus_zero hvalue htext).resolve_right hminus

/-- A host string is read as an integer if it is the text of the integer, or if the integer is not
positive and further zeros stand behind the minus sign. A string that does not begin with a minus
sign and a zero is read as an integer only if it is its text; and an integer that is read is shown
as the string that it was read from just if the string does not begin so. -/
theorem of_host_text_reads_integer_texts (hskip : options.skipEvaluation = false) (text : String)
    (value : Int64) :
    (ofHostText options text = int value ↔ text = integerText value.toInt ∨
      value.toInt ≤ 0 ∧ ∃ zeros, text.toList =
        '-' :: (List.replicate zeros '0' ++ decimalDigits value.toInt.natAbs)) ∧
    (¬ BeginsMinusZero text →
      (ofHostText options text = int value ↔ text = integerText value.toInt)) ∧
    (ofHostText options text = int value →
      ((int value).text = text ↔ ¬ BeginsMinusZero text)) := by
  have hexact := @of_host_text_eq_int_iff_text options text value hskip
  refine ⟨hexact, ?_, ?_⟩
  · intro hminus
    exact ⟨eq_integer_text_of_of_host_text hskip hminus, fun htext => hexact.mpr (.inl htext)⟩
  · intro h
    have hshown : (int value).text = integerText value.toInt := by rw [Value.text]
    rw [hshown]
    constructor
    · rintro rfl
      exact not_begins_minus_zero_integer_text _
    · intro hminus
      exact (eq_integer_text_of_of_host_text hskip hminus h).symm

/-- A number that is written without further zeros is shown as it was written; behind a minus sign
the zeros of a code are dropped, and so is the sign of a zero. -/
theorem reads_number_and_codes_with_minus :
    (ofHostText {} "-42" = int (-42) ∧ (int (-42)).text = "-42") ∧
      (ofHostText {} "-007" = int (-7) ∧ (int (-7)).text ≠ "-007") ∧
      (ofHostText {} "-0" = int 0 ∧ (int 0).text ≠ "-0") := by
  have hnumber := @of_host_text_reads_integer_texts {} rfl "-42" (-42)
  have hcode := @of_host_text_reads_integer_texts {} rfl "-007" (-7)
  have hzero := @of_host_text_reads_integer_texts {} rfl "-0" 0
  have hplain : ¬ BeginsMinusZero "-42" := by
    rintro ⟨rest, hrest⟩
    cases hrest
  have hnumberRead := hnumber.1.mpr (.inl (by decide))
  have hcodeRead := hcode.1.mpr (.inr ⟨by decide, 2, by decide⟩)
  have hzeroRead := hzero.1.mpr (.inr ⟨by decide, 0, by decide⟩)
  refine ⟨⟨hnumberRead, (hnumber.2.2 hnumberRead).mpr hplain⟩, ⟨hcodeRead, ?_⟩, hzeroRead, ?_⟩
  · exact fun hshown => (hcode.2.2 hcodeRead).mp hshown ⟨_, rfl⟩
  · exact fun hshown => (hzero.2.2 hzeroRead).mp hshown ⟨_, rfl⟩

end Value

end TextTemplate
