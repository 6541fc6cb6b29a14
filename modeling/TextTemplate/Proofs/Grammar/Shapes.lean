import TextTemplate.Proofs.Grammar.Spelling
import TextTemplate.Proofs.Grammar.Tokens
import TextTemplate.Proofs.Time.Forms

/-!
# The shapes of literals

A literal is written in digits: an integer with a sign or without, a decimal with a point between
them, a timestamp in one of its forms, and the index of a capture plainly. What the rules of the
grammar read has the shape of its kind (`integer_spells` and so on), and so is made of characters of
a single byte (`LiteralKind.IsText.single`).
-/

namespace TextTemplate.Grammar

open TextTemplate.Grammar.Parser TextTemplate.Number TextTemplate.Time

/-! ## Shapes -/

/-- Whether the characters are digits around a point, with a minus sign in front or not. -/
def IsDecimalText (text : List Char) : Prop :=
  ∃ whole fraction, whole ≠ [] ∧ (∀ c ∈ whole, c.isDigit) ∧ fraction ≠ [] ∧
    (∀ c ∈ fraction, c.isDigit) ∧
      (text = whole ++ '.' :: fraction ∨ text = '-' :: (whole ++ '.' :: fraction))

/-- Whether the characters are the digits of an index. -/
def IsIndexText (text : List Char) : Prop :=
  text ≠ [] ∧ ∀ c ∈ text, c.isDigit

/-- Whether the characters have the shape of a literal of the kind. -/
def LiteralKind.IsText (text : List Char) : LiteralKind → Prop
  | integer => IsIntegerText text
  | decimal => IsDecimalText text
  | timestamp => ∃ form : TimestampForm, form.Fits ∧ form.chars = text
  | captureIndex => IsIndexText text

/-- Every literal has a character. -/
theorem LiteralKind.IsText.ne_nil {kind : LiteralKind} {text : List Char} (h : kind.IsText text) :
    text ≠ [] := by
  cases kind with
  | integer =>
      obtain ⟨digits, hne, -, rfl | rfl⟩ := h
      · exact hne
      · exact List.cons_ne_nil _ _
  | decimal =>
      obtain ⟨whole, fraction, -, -, -, -, rfl | rfl⟩ := h
      · exact List.append_ne_nil_of_right_ne_nil _ (List.cons_ne_nil _ _)
      · exact List.cons_ne_nil _ _
  | timestamp =>
      obtain ⟨form, -, rfl⟩ := h
      exact List.append_ne_nil_of_right_ne_nil _ (List.cons_ne_nil _ _)
  | captureIndex => exact h.1

/-! ## Numbers -/

/-- What is read may be missing. -/
theorem Parser.Spells.optional {α : Type} {p : Parser α} {P : List Char → Prop}
    (h : p.Spells fun text _ => P text) :
    (optional p).Spells fun text _ => text = [] ∨ P text := by
  refine Spells.or_else (h.bind fun first value hfirst => .pure (.inr ?_)) (.pure (.inl rfl))
  rwa [List.append_nil]

theorem digits_spells : digits.Spells fun text _ => IsIndexText text := by
  have hmore : (takeWhile Char.isDigit).Spells fun text _ => ∀ c ∈ text, c.isDigit :=
    ReadsOnly.take_while fun _ hc => hc
  have hrun : (takeWhile1 Char.isDigit).Spells fun text _ => IsIndexText text := by
    refine (Spells.satisfy Char.isDigit).bind fun first c hfirst =>
      hmore.bind fun more value hmore => .pure ?_
    rw [hfirst.1, List.append_nil]
    exact ⟨List.cons_ne_nil c more, List.forall_mem_cons.mpr ⟨hfirst.2, hmore⟩⟩
  refine hrun.bind fun first _ hfirst => .pure ?_
  rwa [List.append_nil]

theorem sign_spells : sign.Spells fun text _ => text = [] ∨ text = ['-'] := by
  refine (Spells.char '-').optional.bind fun first _ hfirst => .pure ?_
  rwa [List.append_nil]

/-- What is read as an integer is one. -/
theorem integer_spells : Parser.Spells (fun text _ => IsIntegerText text) (do sign; digits) := by
  refine sign_spells.bind fun first _ hfirst => digits_spells.mono fun text _ htext => ?_
  refine ⟨text, htext.1, htext.2, ?_⟩
  rcases hfirst with rfl | rfl
  · exact .inl rfl
  · exact .inr rfl

/-- What is read as a decimal is one. -/
theorem decimal_spells :
    Parser.Spells (fun text _ => IsDecimalText text)
      (do sign; digits; let _ ← char '.'; digits) := by
  refine sign_spells.bind fun first _ hfirst => digits_spells.bind fun whole _ hwhole =>
    (Spells.char '.').bind fun point _ hpoint => digits_spells.mono fun fraction _ hfraction => ?_
  refine ⟨whole, fraction, hwhole.1, hwhole.2, hfraction.1, hfraction.2, ?_⟩
  obtain rfl := hpoint
  rcases hfirst with rfl | rfl
  · exact .inl rfl
  · exact .inr rfl

/-- What is read as a capture is an ampersand with an index. -/
theorem capture_spells :
    Parser.Spells (fun text _ => ∃ index, text = '&' :: index ∧ IsIndexText index)
      (do let _ ← char '&'; rule .captureIndex digits) := by
  refine (Spells.char '&').bind fun first _ hfirst => ?_
  intro cs value rest hread
  rw [reads?_rule] at hread
  obtain ⟨index, htext, hindex⟩ := digits_spells cs value rest hread
  exact ⟨index, htext, index, by rw [hfirst, List.singleton_append], hindex⟩

/-! ## Timestamps -/

/-- Digits are those of their number, with as many zeros in front as there were. -/
theorem exists_padded_digits {width : Nat} (hwidth : 0 < width) {digits : List Char}
    (hlength : digits.length = width) (h : ∀ c ∈ digits, c.isDigit) :
    ∃ n, n < 10 ^ width ∧ digits = paddedDigits width n := by
  have hne : digits ≠ [] := List.ne_nil_of_length_pos (hlength ▸ hwidth)
  obtain ⟨zeros, hzeros⟩ := exists_zeros_decimal_digits hne h
  refine ⟨ofDigits digits, hlength ▸ of_digits_lt h, ?_⟩
  have hcount : zeros = width - (decimalDigits (ofDigits digits)).length := by
    have htotal := congrArg List.length hzeros
    rw [List.length_append, List.length_replicate, hlength] at htotal
    omega
  rw [paddedDigits, ← hcount]
  exact hzeros

theorem digit_count_spells {width : Nat} (hwidth : 0 < width) :
    (digitCount width).Spells fun text _ => ∃ n, n < 10 ^ width ∧ text = paddedDigits width n := by
  have hdigits : ∀ count, (digitCount count).Spells fun text _ =>
      text.length = count ∧ ∀ c ∈ text, c.isDigit := by
    intro count
    induction count with
    | zero => exact .pure ⟨rfl, List.forall_mem_nil _⟩
    | succ count ih =>
        refine (Spells.satisfy Char.isDigit).bind fun first c hfirst =>
          ih.mono fun more _ hmore => ?_
        rw [hfirst.1]
        exact ⟨congrArg (· + 1) hmore.1, List.forall_mem_cons.mpr ⟨hfirst.2, hmore.2⟩⟩
  exact (hdigits width).mono fun text _ htext => exists_padded_digits hwidth htext.1 htext.2

theorem two_digits_spell :
    (digitCount 2).Spells fun text _ => ∃ n, n < 100 ∧ text = paddedDigits 2 n :=
  digit_count_spells (by decide)

theorem date_spells :
    date.Spells fun text _ => ∃ year month day, year < 10000 ∧ month < 100 ∧ day < 100 ∧
      text = paddedDigits 4 year ++ '-' :: (paddedDigits 2 month ++ '-' :: paddedDigits 2 day) := by
  refine (digit_count_spells (by decide)).bind fun _ _ hyear => (Spells.char '-').bind
    fun _ _ hdash => two_digits_spell.bind fun _ _ hmonth => (Spells.char '-').bind
      fun _ _ hsecondDash => two_digits_spell.mono fun _ _ hday => ?_
  obtain ⟨year, hyear, rfl⟩ := hyear
  obtain ⟨month, hmonth, rfl⟩ := hmonth
  obtain ⟨day, hday, rfl⟩ := hday
  obtain rfl := hdash
  obtain rfl := hsecondDash
  exact ⟨year, month, day, hyear, hmonth, hday, rfl⟩

/-- The fraction may be missing. -/
theorem fraction_spells :
    (optional secondFraction).Spells fun text _ =>
      ∃ fraction, (∀ c ∈ fraction, c.isDigit) ∧ text = fractionText fraction := by
  have hfraction : secondFraction.Spells fun text _ => ∃ fraction, IsIndexText fraction ∧
      text = '.' :: fraction := by
    refine (Spells.char '.').bind fun _ _ hpoint => digits_spells.mono fun fraction _ h => ?_
    exact ⟨fraction, h, by rw [hpoint, List.singleton_append]⟩
  refine hfraction.optional.mono fun text _ htext => ?_
  rcases htext with rfl | ⟨fraction, ⟨hne, hdigits⟩, rfl⟩
  · exact ⟨[], List.forall_mem_nil _, rfl⟩
  · obtain ⟨c, digits, rfl⟩ := List.exists_cons_of_ne_nil hne
    exact ⟨c :: digits, hdigits, rfl⟩

/-- The second may be missing. -/
theorem second_spells :
    (optional second).Spells fun text _ => ∃ second : Option (Nat × List Char),
      (second.getD (0, [])).1 < 100 ∧ (∀ c ∈ (second.getD (0, [])).2, c.isDigit) ∧
        text = secondText second := by
  have hsecond : second.Spells fun text _ => ∃ count fraction, count < 100 ∧
      (∀ c ∈ fraction, c.isDigit) ∧
        text = ':' :: (paddedDigits 2 count ++ fractionText fraction) := by
    refine (Spells.char ':').bind fun _ _ hcolon => two_digits_spell.bind fun _ _ hcount =>
      fraction_spells.bind fun _ _ hfraction => .pure ?_
    obtain ⟨count, hcount, rfl⟩ := hcount
    obtain ⟨fraction, hdigits, rfl⟩ := hfraction
    refine ⟨count, fraction, hcount, hdigits, ?_⟩
    rw [hcolon, List.append_nil, List.singleton_append]
  refine hsecond.optional.mono fun text _ htext => ?_
  rcases htext with rfl | ⟨count, fraction, hcount, hdigits, rfl⟩
  · exact ⟨none, Nat.zero_lt_succ _, List.forall_mem_nil _, rfl⟩
  · exact ⟨some (count, fraction), hcount, hdigits, rfl⟩

/-- The offset may be missing. -/
theorem offset_spells :
    (optional offset).Spells fun text _ => ∃ offset : OffsetForm, offset.fits ∧
      text = offset.text := by
  have hletter : Parser.Spells (fun text _ => ∃ offset : OffsetForm, offset.fits ∧
      text = offset.text) (do let _ ← satisfy fun c => c == 'Z' || c == 'z'; return ()) := by
    refine (Spells.satisfy _).bind fun first c hfirst => .pure ?_
    rw [hfirst.1, List.append_nil]
    rcases Bool.or_eq_true_iff.mp hfirst.2 with hc | hc
    · exact ⟨.letter false, rfl, by rw [eq_of_beq hc]; rfl⟩
    · exact ⟨.letter true, rfl, by rw [eq_of_beq hc]; rfl⟩
  have hnumeric : numericOffset.Spells fun text _ => ∃ offset : OffsetForm, offset.fits ∧
      text = offset.text := by
    refine (Spells.satisfy _).bind fun first c hfirst => two_digits_spell.bind fun _ _ hhours =>
      (Spells.char ':').optional.bind fun _ _ hcolon => two_digits_spell.mono
        fun _ _ hminutes => ?_
    obtain ⟨hours, hhours, rfl⟩ := hhours
    obtain ⟨minutes, hminutes, rfl⟩ := hminutes
    have hsign : first = [if c == '-' then '-' else '+'] := by
      rw [hfirst.1]
      rcases Bool.or_eq_true_iff.mp hfirst.2 with hc | hc <;> rw [eq_of_beq hc] <;> rfl
    rw [hsign]
    rcases hcolon with rfl | rfl
    · exact ⟨.numeric (c == '-') hours minutes false, by simp [OffsetForm.fits, *], rfl⟩
    · exact ⟨.numeric (c == '-') hours minutes true, by simp [OffsetForm.fits, *], rfl⟩
  refine (hletter.or_else hnumeric).optional.mono fun text _ htext => ?_
  rcases htext with rfl | htext
  · exact ⟨.missing, rfl, rfl⟩
  · exact htext

/-- What is read as a timestamp is one of its forms. -/
theorem timestamp_spells :
    Parser.Spells (fun text _ => ∃ form : TimestampForm, form.Fits ∧ form.chars = text)
      (do date; let _ ← char 'T'; time; optional offset) := by
  have htime : time.Spells fun text _ => ∃ hour minute, ∃ second : Option (Nat × List Char),
      hour < 100 ∧ minute < 100 ∧ (second.getD (0, [])).1 < 100 ∧
        (∀ c ∈ (second.getD (0, [])).2, c.isDigit) ∧
          text = paddedDigits 2 hour ++ ':' :: (paddedDigits 2 minute ++ secondText second) := by
    refine two_digits_spell.bind fun _ _ hhour => (Spells.char ':').bind fun _ _ hcolon =>
      two_digits_spell.bind fun _ _ hminute => second_spells.bind fun _ _ hsecond => .pure ?_
    obtain ⟨hour, hhour, rfl⟩ := hhour
    obtain ⟨minute, hminute, rfl⟩ := hminute
    obtain ⟨second, hcount, hfraction, rfl⟩ := hsecond
    refine ⟨hour, minute, second, hhour, hminute, hcount, hfraction, ?_⟩
    rw [hcolon, List.append_nil, List.singleton_append]
  refine date_spells.bind fun _ _ hdate => (Spells.char 'T').bind fun _ _ hletter =>
    htime.bind fun _ _ htime => offset_spells.mono fun _ _ hoffset => ?_
  obtain ⟨year, month, day, hyear, hmonth, hday, rfl⟩ := hdate
  obtain ⟨hour, minute, second, hhour, hminute, hcount, hfraction, rfl⟩ := htime
  obtain ⟨offset, hoffset, rfl⟩ := hoffset
  refine ⟨⟨year, month, day, hour, minute, second, offset⟩,
    ⟨hyear, hmonth, hday, hhour, hminute, hcount, hfraction, hoffset⟩, ?_⟩
  simp [TimestampForm.chars, hletter]

/-! ## Characters -/

/-- The characters of timestamps besides digits. -/
def timestampMarks : List Char :=
  ['-', '+', ':', '.', 'T', 'Z', 'z']

/-- A form is written in digits and marks. -/
theorem forall_mem_chars {P : Char → Prop} (hdigit : ∀ c, c.isDigit → P c)
    (hmark : ∀ c ∈ timestampMarks, P c) {form : TimestampForm} (h : form.Fits) :
    ∀ c ∈ form.chars, P c := by
  have hpadded : ∀ width n, ∀ c ∈ paddedDigits width n, P c :=
    fun width n c hc => hdigit c (is_digit_of_mem_padded_digits c hc)
  simp only [timestampMarks, List.forall_mem_cons, List.not_mem_nil, false_implies,
    implies_true, and_true] at hmark
  obtain ⟨hdash, hplus, hcolon, hpoint, hletter, hcapital, hsmall⟩ := hmark
  have hfraction : ∀ fraction : List Char, (∀ c ∈ fraction, c.isDigit) →
      ∀ c ∈ fractionText fraction, P c := by
    intro fraction hdigits
    cases fraction with
    | nil => exact List.forall_mem_nil _
    | cons c digits =>
        exact List.forall_mem_cons.mpr ⟨hpoint, fun d hd => hdigit d (hdigits d hd)⟩
  have hsecond : ∀ c ∈ secondText form.second, P c := by
    have hdigits := h.fraction
    rw [TimestampForm.wholeSecond] at hdigits
    cases hwritten : form.second with
    | none => exact List.forall_mem_nil _
    | some second =>
        rw [hwritten] at hdigits
        exact List.forall_mem_cons.mpr ⟨hcolon, List.forall_mem_append.mpr
          ⟨hpadded 2 _, hfraction _ hdigits⟩⟩
  have hoffset : ∀ c ∈ form.offset.text, P c := by
    cases form.offset with
    | missing => exact List.forall_mem_nil _
    | letter small => cases small <;> exact List.forall_mem_singleton.mpr (by assumption)
    | numeric west hours minutes colon =>
        refine List.forall_mem_cons.mpr ⟨by cases west <;> assumption, List.forall_mem_append.mpr
          ⟨hpadded 2 _, List.forall_mem_append.mpr ⟨?_, hpadded 2 _⟩⟩⟩
        cases colon with
        | true => exact List.forall_mem_singleton.mpr hcolon
        | false => exact List.forall_mem_nil _
  simp only [TimestampForm.chars, List.forall_mem_append, List.forall_mem_cons]
  exact ⟨hpadded 4 _, hdash, hpadded 2 _, hdash, hpadded 2 _, hletter, hpadded 2 _, hcolon,
    hpadded 2 _, hsecond, hoffset⟩

/-- Digits take a single byte. -/
theorem utf8_size_of_digit (c : Char) (h : c.isDigit) : c.utf8Size = 1 := by
  simp only [Char.isDigit, Bool.and_eq_true, decide_eq_true_eq] at h
  have hnine : c.val ≤ 57 := h.2
  exact Char.utf8Size_eq_one_iff.mpr (UInt32.le_trans hnine (by decide))

/-- The characters of a literal take a single byte. -/
theorem LiteralKind.IsText.single {kind : LiteralKind} {text : List Char} (h : kind.IsText text) :
    ∀ c ∈ text, c.utf8Size = 1 := by
  have hdigits : ∀ {digits : List Char}, (∀ c ∈ digits, c.isDigit) →
      ∀ c ∈ digits, c.utf8Size = 1 := fun hdigits c hc => utf8_size_of_digit c (hdigits c hc)
  cases kind with
  | integer =>
      obtain ⟨digits, -, h, rfl | rfl⟩ := h
      · exact hdigits h
      · exact List.forall_mem_cons.mpr ⟨rfl, hdigits h⟩
  | decimal =>
      obtain ⟨whole, fraction, -, hwhole, -, hfraction, htext⟩ := h
      have hbare : ∀ c ∈ whole ++ '.' :: fraction, c.utf8Size = 1 :=
        List.forall_mem_append.mpr
          ⟨hdigits hwhole, List.forall_mem_cons.mpr ⟨rfl, hdigits hfraction⟩⟩
      rcases htext with rfl | rfl
      · exact hbare
      · exact List.forall_mem_cons.mpr ⟨rfl, hbare⟩
  | timestamp =>
      obtain ⟨form, hfits, rfl⟩ := h
      exact forall_mem_chars utf8_size_of_digit (by simp [timestampMarks]; decide) hfits
  | captureIndex => exact hdigits h.2

end TextTemplate.Grammar
