import TextTemplate.Proofs.Time.Forms

/-!
# What formats read

Each directive takes its part of what a form writes, and from it follows what a whole format reads:
the fields of the form, provided that it writes the parts for which the format asks. So literals
denote the forms in which an offset in digits comes with seconds
(`TimestampForm.of_literal?_chars`), and interchange text may have an offset in either spelling
(`TimestampForm.read?_interchange`).
-/

namespace TextTemplate.Time

open TextTemplate.Grammar TextTemplate.Number

/-! ## Digits -/

/-- Digits are no white space. -/
theorem is_whitespace_eq_false {c : Char} (h : c.isDigit) : isWhitespace c = false := by
  have hdigit : 48 ≤ c.toNat ∧ c.toNat ≤ 57 := by
    simpa [Char.isDigit, UInt32.le_iff_toNat_le] using h
  have hranges : whitespaceRanges.all fun range => range.last < 48 ∨ 57 < range.first := by decide
  rw [isWhitespace, Text.CodeRange.covers, List.any_eq_false]
  intro range hrange
  have hapart := List.all_eq_true.mp hranges range hrange
  simp only [decide_eq_true_eq] at hapart
  simp only [Text.CodeRange.holds, Bool.and_eq_true, decide_eq_true_eq]
  omega

/-- Digits are not the character. -/
theorem beq_eq_false_of_is_digit {c d : Char} (hd : d.isDigit = false) (h : c.isDigit) :
    (c == d) = false := by
  rw [beq_eq_false_iff_ne]
  rintro rfl
  exact absurd h (Bool.eq_false_iff.mp hd)

/-- Where digits begin, a property that no digit has stops. -/
theorem stops_padded_digits {p : Char → Bool} (hp : ∀ c, c.isDigit → p c = false) (width n : Nat)
    (rest : List Char) : Stops p (paddedDigits width n ++ rest) := by
  have hne : paddedDigits width n ≠ [] :=
    fun h => decimal_digits_ne_nil n (List.append_eq_nil_iff.mp h).2
  obtain ⟨c, digits, hdigits⟩ := List.exists_cons_of_ne_nil hne
  have hc : c.isDigit := is_digit_of_mem_padded_digits c (hdigits ▸ List.mem_cons_self)
  rw [hdigits]
  exact .cons (hp c hc) _

/-- A number of few enough digits is taken from its digits. -/
theorem take_number_padded_digits {least width n : Nat} (hleast : least ≤ width)
    (hwidth : 0 < width) (h : n < 10 ^ width) (rest : List Char) :
    takeNumber least width (paddedDigits width n ++ rest) = some (n, rest) := by
  have hlength := length_padded_digits hwidth h
  have hdigits : (paddedDigits width n).takeWhile Char.isDigit = paddedDigits width n := by
    have htake := (Stops.nil Char.isDigit).take_while_append
      (is_digit_of_mem_padded_digits : ∀ c ∈ paddedDigits width n, c.isDigit)
    rwa [List.append_nil] at htake
  simp only [takeNumber, List.take_left' hlength, hdigits, hlength, hleast, if_true,
    of_digits_padded_digits, List.drop_left' hlength]

namespace Field

/-- How many numbers the digits of the field can write. -/
def bound : Field → Nat
  | year => 10000
  | _ => 100

theorem bound_eq (field : Field) : field.bound = 10 ^ field.width := by
  cases field <;> rfl

variable {n : Nat}

/-- A field is taken from its digits. -/
theorem take_digits {field : Field} (h : n < field.bound) (rest : List Char) :
    takeDigits field (paddedDigits field.width n ++ rest) = some ((n : Int), rest) := by
  have hwidth : 0 < field.width := by cases field <;> decide
  rw [bound_eq] at h
  rw [takeDigits, take_number_padded_digits (Nat.le_refl _) hwidth h]
  rfl

/-- A field without a sign is taken where leading zeros may be missing. -/
theorem take_numeral {field : Field} (h : n < field.bound) (rest : List Char) :
    takeNumeral field (paddedDigits field.width n ++ rest) = some ((n : Int), rest) := by
  have hwidth : 1 ≤ field.width := by cases field <;> decide
  rw [bound_eq] at h
  have htake := take_number_padded_digits hwidth hwidth h rest
  cases field with
  | year =>
      have hsign : ∀ d : Char, d.isDigit = false → Stops (· == d) (paddedDigits 4 n ++ rest) :=
        fun d hd => stops_padded_digits (fun c => beq_eq_false_of_is_digit hd) 4 n rest
      rw [takeNumeral, takeYear.eq_def]
      split
      · next cs heq => exact absurd (heq ▸ hsign '-' rfl).of_cons (by decide)
      · next cs heq => exact absurd (heq ▸ hsign '+' rfl).of_cons (by decide)
      · simp only [width] at htake
        simp only [width, htake, Option.map_some]
  | _ =>
      simp only [width] at htake
      simp only [takeNumeral, width, htake, Option.map_some]

end Field

/-- The character is not taken where another one stands. -/
theorem take_char_eq_none {c : Char} {rest : List Char} (h : Stops (· == c) rest) :
    takeChar c rest = none := by
  cases rest with
  | nil => rfl
  | cons d rest => exact if_neg (beq_eq_false_iff_ne.mp h.of_cons)

/-! ## Fractions and offsets -/

/-- A property that neither the letters nor the signs have stops at an offset. -/
theorem OffsetForm.stops {p : Char → Bool} (hp : ['Z', 'z', '+', '-'].all (!p ·))
    (offset : OffsetForm) : Stops p offset.text := by
  cases offset with
  | missing => exact .nil p
  | letter small => cases small <;> exact .cons (not_of_mem hp (by decide)) _
  | numeric west hours minutes colon => cases west <;> exact .cons (not_of_mem hp (by decide)) _

/-- A fraction is taken up to where its digits end. -/
theorem take_fraction_text {fraction rest : List Char} (h : ∀ c ∈ fraction, c.isDigit)
    (hdigit : Stops Char.isDigit rest) (hpoint : Stops (· == '.') rest) :
    takeFraction (fractionText fraction ++ rest) = some (fraction, rest) := by
  cases fraction with
  | nil =>
      rw [fractionText, List.nil_append, takeFraction.eq_def]
      split
      · next cs => exact absurd hpoint.of_cons (by decide)
      · rfl
  | cons c digits =>
      rw [fractionText, List.cons_append, takeFraction, hdigit.take_while_append h,
        hdigit.drop_while_append h]
      rfl

/-- Hours and minutes of an offset are taken if the minutes are less than an hour. -/
theorem take_offset_digits {between : List Char → Option (List Char)} {hours minutes : Nat}
    (hhours : hours < 100) (hminutes : minutes < 100) {colon : List Char}
    (hbetween : between (colon ++ paddedDigits 2 minutes) = some (paddedDigits 2 minutes))
    (sign : Int) :
    takeOffsetDigits between sign (paddedDigits 2 hours ++ (colon ++ paddedDigits 2 minutes)) =
      if minutes < 60 then some (sign * (hours * 3600 + minutes * 60 : Nat), []) else none := by
  have htake : ∀ {n : Nat} (_ : n < 100) (rest : List Char),
      takeNumber 2 2 (paddedDigits 2 n ++ rest) = some (n, rest) :=
    fun hn => take_number_padded_digits (by decide) (by decide) hn
  have hlast := htake hminutes []
  rw [List.append_nil] at hlast
  simp [takeOffsetDigits, htake hhours, hbetween, hlast]

/-- Hours are not taken without what is asked for behind them. -/
theorem take_offset_digits_eq_none {between : List Char → Option (List Char)} {hours : Nat}
    (hhours : hours < 100) {rest : List Char} (hbetween : between rest = none) (sign : Int) :
    takeOffsetDigits between sign (paddedDigits 2 hours ++ rest) = none := by
  have htake : takeNumber 2 2 (paddedDigits 2 hours ++ rest) = some (hours, rest) :=
    take_number_padded_digits (by decide) (by decide) hhours rest
  simp [takeOffsetDigits, htake, hbetween]

/-- What does not begin with a `u` is not the word `UTC`. -/
theorem take_zone_name_eq {cs : List Char} (h : Stops (fun c => c.toLower == 'u') cs) :
    takeZoneName cs = takeZone takeGap cs := by
  rw [takeZoneName, if_neg]
  intro hword
  cases cs with
  | nil => cases hword
  | cons c cs =>
      rw [List.take_succ_cons, List.map_cons, List.cons.injEq] at hword
      exact absurd hword.1 (beq_eq_false_iff_ne.mp h.of_cons)

/-- The sign of an offset is taken. -/
theorem take_offset_sign (between : List Char → Option (List Char)) (west : Bool)
    (cs : List Char) :
    takeOffset between ((if west then '-' else '+') :: cs) =
      takeOffsetDigits between (if west then -1 else 1) cs := by
  cases west <;> rfl

/-- An offset in digits is no letter of UTC. -/
theorem take_zone_sign (between : List Char → Option (List Char)) (west : Bool) (cs : List Char) :
    takeZone between ((if west then '-' else '+') :: cs) =
      takeOffsetDigits between (if west then -1 else 1) cs := by
  cases west <;> rfl

/-- A colon may stand between hours and minutes. -/
theorem take_gap_colon (colon : Bool) (minutes : Nat) :
    takeGap ((if colon then [':'] else []) ++ paddedDigits 2 minutes) =
      some (paddedDigits 2 minutes) := by
  have hstops : Stops (fun c => c == ':' || isWhitespace c) (paddedDigits 2 minutes ++ []) :=
    stops_padded_digits (fun c hc => Bool.or_eq_false_iff.mpr
      ⟨beq_eq_false_of_is_digit rfl hc, is_whitespace_eq_false hc⟩) 2 minutes []
  rw [List.append_nil] at hstops
  cases colon with
  | true => exact congrArg some hstops.drop_while
  | false => exact congrArg some hstops.drop_while

namespace OffsetForm

variable {offset : OffsetForm}

/-- Whether the offset is a letter or has a colon, as RFC 3339 asks for. -/
def isZone : OffsetForm → Bool
  | missing => false
  | letter _ => true
  | numeric _ _ _ colon => colon

/-- Only a missing offset has no text. -/
theorem eq_missing_of_text (h : offset.text = []) : offset = missing := by
  cases offset with
  | missing => rfl
  | letter small => cases h
  | numeric west hours minutes colon => cases h

/-- An offset in digits is taken with and without its colon. -/
theorem take_offset_text (h : offset.fits) :
    takeOffset takeGap offset.text =
      if offset.isNumeric && offset.isHourly then some (offset.seconds, []) else none := by
  cases offset with
  | missing => rfl
  | letter small => cases small <;> rfl
  | numeric west hours minutes colon =>
      simp only [fits, Bool.and_eq_true, decide_eq_true_eq] at h
      simp only [text, take_offset_sign, isNumeric, isHourly, Bool.true_and, decide_eq_true_eq]
      exact take_offset_digits h.1 h.2 (take_gap_colon colon minutes) _

/-- The letter of UTC is taken, and an offset in digits is if it has a colon. -/
theorem take_zone_text (h : offset.fits) :
    takeZone (takeChar ':') offset.text =
      if offset.isZone && offset.isHourly then some (offset.seconds, []) else none := by
  cases offset with
  | missing => rfl
  | letter small => cases small <;> rfl
  | numeric west hours minutes colon =>
      simp only [fits, Bool.and_eq_true, decide_eq_true_eq] at h
      cases colon with
      | true =>
          simp only [text, take_zone_sign, isZone, isHourly, Bool.true_and, decide_eq_true_eq]
          exact take_offset_digits h.1 h.2 rfl _
      | false =>
          -- Where the colon is asked for, the digits of the minutes follow.
          have hcolon : Stops (· == ':') (paddedDigits 2 minutes ++ []) :=
            stops_padded_digits (fun c => beq_eq_false_of_is_digit rfl) 2 minutes []
          rw [List.append_nil] at hcolon
          simp only [text, take_zone_sign, isZone, Bool.false_and]
          exact take_offset_digits_eq_none h.1 (take_char_eq_none hcolon) _

/-- In interchange text every offset that is written is taken. -/
theorem take_zone_name_text (h : offset.fits) (hwritten : offset ≠ missing) :
    takeZoneName offset.text = if offset.isHourly then some (offset.seconds, []) else none := by
  have hword : Stops (fun c => c.toLower == 'u') offset.text := offset.stops (by decide)
  rw [take_zone_name_eq hword]
  cases offset with
  | missing => exact absurd rfl hwritten
  | letter small => cases small <;> rfl
  | numeric west hours minutes colon =>
      have hgap := take_offset_text h
      simp only [text, take_offset_sign, isNumeric, Bool.true_and] at hgap
      simp only [text, take_zone_sign]
      exact hgap

end OffsetForm

/-! ## The letter of UTC -/

/-- The text has a digit at its end. -/
def EndsInDigit (cs : List Char) : Prop :=
  ∃ c ∈ cs.getLast?, c.isDigit

namespace EndsInDigit

variable {cs : List Char}

theorem of_digits {digits : List Char} (hne : digits ≠ []) (h : ∀ c ∈ digits, c.isDigit) :
    EndsInDigit digits :=
  ⟨digits.getLast hne, List.getLast?_eq_some_getLast hne, h _ (List.getLast_mem hne)⟩

theorem of_padded_digits (width n : Nat) : EndsInDigit (paddedDigits width n) :=
  .of_digits (fun h => decimal_digits_ne_nil n (List.append_eq_nil_iff.mp h).2)
    is_digit_of_mem_padded_digits

theorem append (h : EndsInDigit cs) (first : List Char) : EndsInDigit (first ++ cs) := by
  obtain ⟨c, hc, hdigit⟩ := h
  exact ⟨c, by simp [Option.mem_def.mp hc], hdigit⟩

theorem cons (h : EndsInDigit cs) (c : Char) : EndsInDigit (c :: cs) :=
  h.append [c]

/-- From the other end, a property that no digit has stops. -/
theorem stops_reverse (h : EndsInDigit cs) {p : Char → Bool} (hp : ∀ c, c.isDigit → p c = false) :
    Stops p cs.reverse := by
  obtain ⟨c, hc, hdigit⟩ := h
  intro d hd
  rw [List.head?_reverse, Option.mem_def.mp hc] at hd
  exact Option.some.inj hd ▸ hp c hdigit

/-- Letters of UTC behind a digit are cut off. -/
theorem trim_zone_append (h : EndsInDigit cs) {letters : List Char}
    (hletters : ∀ c ∈ letters, c == 'Z' || c == 'z') : trimZone (cs ++ letters) = cs := by
  have hstops : Stops (fun c => c == 'Z' || c == 'z') cs.reverse :=
    h.stops_reverse fun c hc => Bool.or_eq_false_iff.mpr
      ⟨beq_eq_false_of_is_digit rfl hc, beq_eq_false_of_is_digit rfl hc⟩
  rw [trimZone, List.reverse_append, hstops.drop_while_append (by simpa using hletters),
    List.reverse_reverse]

/-- Where a digit is last, no letter is cut off. -/
theorem trim_zone (h : EndsInDigit cs) : trimZone cs = cs := by
  have htrim := h.trim_zone_append (List.forall_mem_nil _)
  rwa [List.append_nil] at htrim

end EndsInDigit

/-! ## Directives -/

namespace Directive

variable {n : Nat} {written : WrittenTime} {rest : List Char}

@[simp] theorem take_digits {field : Field} (h : n < field.bound) :
    take (written, paddedDigits field.width n ++ rest) (.digits field) =
      some (field.set written n, rest) := by
  simp [take, setField, Field.take_digits h]

@[simp] theorem take_number {field : Field} (h : n < field.bound) :
    take (written, paddedDigits field.width n ++ rest) (.number field) =
      some (field.set written n, rest) := by
  have hblank : Stops isWhitespace (paddedDigits field.width n ++ rest) :=
    stops_padded_digits (fun _ => is_whitespace_eq_false) field.width n rest
  simp [take, setField, hblank.drop_while, Field.take_numeral h]

@[simp] theorem take_literal {c : Char} :
    take (written, c :: rest) (.literal c) = some (written, rest) := by
  simp [take, takeChar]

/-- The character is missing. -/
theorem take_literal_eq_none {c : Char} (h : Stops (· == c) rest) :
    take (written, rest) (.literal c) = none := by
  simp [take, take_char_eq_none h]

@[simp] theorem take_separator : take (written, 'T' :: rest) .separator = some (written, rest) :=
  rfl

/-- There is no white space. -/
theorem take_whitespace (h : Stops isWhitespace rest) :
    take (written, rest) .whitespace = some (written, rest) := by
  simp [take, h.drop_while]

/-- The nanoseconds of a fraction are set. -/
theorem take_fraction {cs places : List Char} (h : takeFraction cs = some (places, rest)) :
    take (written, cs) .fraction =
      some ({ written with clock.nanos := nanosOfFraction places }, rest) := by
  simp [take, h]

/-- The offset is set. -/
theorem take_zone_name {cs : List Char} {seconds : Int} (h : takeZoneName cs = some (seconds, rest)) :
    take (written, cs) .zoneName = some ({ written with offset := seconds }, rest) := by
  simp [take, setOffset, h]

end Directive

/-! ## The offset of UTC -/

namespace OffsetForm

/-- The offset, where its letter is cut off. -/
def withoutLetter : OffsetForm → OffsetForm
  | letter _ => missing
  | offset => offset

theorem fits_without_letter {offset : OffsetForm} (h : offset.fits) : offset.withoutLetter.fits := by
  cases offset with
  | letter small => rfl
  | _ => exact h

/-- The letter of UTC is what is cut off from an offset behind a digit. -/
theorem trim_zone_append {bare : List Char} (h : EndsInDigit bare) (offset : OffsetForm) :
    trimZone (bare ++ offset.text) = bare ++ offset.withoutLetter.text := by
  cases offset with
  | missing =>
      simp only [withoutLetter, text, List.append_nil]
      exact h.trim_zone
  | letter small =>
      simp only [withoutLetter, text, List.append_nil]
      exact h.trim_zone_append (List.forall_mem_singleton.mpr (by cases small <;> rfl))
  | numeric west hours minutes colon =>
      have hdigits : EndsInDigit (numeric west hours minutes colon).text :=
        (((EndsInDigit.of_padded_digits 2 minutes).append _).append _).cons _
      exact (hdigits.append bare).trim_zone

end OffsetForm

/-! ## Dates and times -/

/-- How a format asks for date and time. -/
structure Style where
  number : Field → Directive
  separator : Directive
  /-- What is asked for where white space may stand. -/
  gap : List Directive

namespace Style

/-- What is asked for up to the minute. -/
def toMinute (style : Style) : Format :=
  style.number .year :: (style.gap ++ .literal '-' :: style.number .month ::
    (style.gap ++ .literal '-' :: style.number .day :: style.separator :: style.number .hour ::
      (style.gap ++ .literal ':' :: style.number .minute :: style.gap)))

/-- What is asked for up to the fraction of the second. -/
def toSecond (style : Style) : Format :=
  style.toMinute ++ [.literal ':', style.number .second, .fraction]

/-- All digits are asked for, as in RFC 3339. -/
def strict : Style :=
  ⟨.digits, .separator, []⟩

/-- Leading zeros may be missing. -/
def plain : Style :=
  ⟨.number, .literal 'T', []⟩

/-- Leading zeros may be missing, and there may be white space, as in interchange text. -/
def lenient : Style :=
  ⟨.number, .separator, [.whitespace]⟩

/-- The style takes what forms write. -/
structure Takes (style : Style) : Prop where
  number : ∀ {field : Field} {n : Nat}, n < field.bound → ∀ (written : WrittenTime)
    (rest : List Char), Directive.take (written, paddedDigits field.width n ++ rest)
      (style.number field) = some (field.set written n, rest)
  separator : ∀ (written : WrittenTime) (rest : List Char),
    Directive.take (written, 'T' :: rest) style.separator = some (written, rest)
  gap : ∀ {rest : List Char}, Stops isWhitespace rest → ∀ written : WrittenTime,
    style.gap.foldlM Directive.take (written, rest) = some (written, rest)

theorem takes_strict : strict.Takes where
  number h _ _ := Directive.take_digits h
  separator _ _ := Directive.take_separator
  gap _ _ := rfl

theorem takes_plain : plain.Takes where
  number h _ _ := Directive.take_number h
  separator _ _ := Directive.take_literal
  gap _ _ := rfl

theorem takes_lenient : lenient.Takes where
  number h _ _ := Directive.take_number h
  separator _ _ := Directive.take_separator
  gap h _ := by simp [lenient, List.foldlM, Directive.take_whitespace h]

end Style

/-- Only a missing second has no text. -/
theorem eq_none_of_second_text {second : Option (Nat × List Char)} (h : secondText second = []) :
    second = none := by
  cases second with
  | none => rfl
  | some second => cases h

namespace TimestampForm

variable {form : TimestampForm}

/-- What the form says up to the minute. -/
def toMinute (form : TimestampForm) : WrittenTime where
  clock :=
    { date := ⟨form.year, form.month, form.day⟩
      hour := form.hour
      minute := form.minute
      second := 0
      nanos := 0 }
  offset := 0

/-- What may follow the minutes does not begin with white space. -/
theorem stops_after_minute (form : TimestampForm) :
    Stops isWhitespace (secondText form.second ++ form.offset.text) := by
  cases form.second with
  | none => exact form.offset.stops (by decide)
  | some second => exact .cons (by decide) _

/-- Date and time are taken up to the minute. -/
theorem foldl_to_minute (h : form.Fits) {style : Style} (hstyle : style.Takes) :
    style.toMinute.foldlM Directive.take (.unset, form.chars) =
      some (form.toMinute, secondText form.second ++ form.offset.text) := by
  have hyear := hstyle.number (show form.year < Field.bound .year from h.year)
  have hmonth := hstyle.number (show form.month < Field.bound .month from h.month)
  have hday := hstyle.number (show form.day < Field.bound .day from h.day)
  have hhour := hstyle.number (show form.hour < Field.bound .hour from h.hour)
  have hminute := hstyle.number (show form.minute < Field.bound .minute from h.minute)
  have hdash : ∀ rest, Stops isWhitespace ('-' :: rest) := .cons (by decide)
  have hcolon : ∀ rest, Stops isWhitespace (':' :: rest) := .cons (by decide)
  simp only [Field.width] at hyear hmonth hday hhour hminute
  simp [Style.toMinute, List.foldlM_append, chars, hyear, hmonth, hday, hhour, hminute,
    hstyle.separator, hstyle.gap (hdash _), hstyle.gap (hcolon _),
    hstyle.gap form.stops_after_minute, toMinute, Field.set, WrittenTime.unset]

/-- Date and time are taken with the seconds if these are written. -/
theorem foldl_to_second (h : form.Fits) {style : Style} (hstyle : style.Takes) :
    style.toSecond.foldlM Directive.take (.unset, form.chars) =
      if form.second.isSome then some ({ form.fields with offset := 0 }, form.offset.text)
      else none := by
  have hcount := h.second
  have hdigits := h.fraction
  rw [Style.toSecond, List.foldlM_append, foldl_to_minute h hstyle]
  cases hsecond : form.second with
  | none =>
      have hcolon : Stops (· == ':') form.offset.text := form.offset.stops (by decide)
      simp [List.foldlM, secondText, Directive.take_literal_eq_none hcolon]
  | some second =>
      obtain ⟨count, fraction⟩ := second
      simp only [wholeSecond, hsecond, Option.getD_some] at hcount hdigits
      have htake := hstyle.number (show count < Field.bound .second from hcount)
      have hfraction := take_fraction_text hdigits
        (form.offset.stops (p := Char.isDigit) (by decide))
        (form.offset.stops (p := (· == '.')) (by decide))
      simp only [Field.width] at htake
      simp [List.foldlM, secondText, htake, Directive.take_fraction hfraction, fields, toMinute,
        Field.set, wholeSecond, hsecond]

/-! ## Formats -/

/-- A format reads what its directives take. -/
theorem read?_of_foldl {format : Format} {cs : List Char} {written : WrittenTime}
    (h : format.foldlM Directive.take (.unset, cs) = some (written, [])) :
    format.read? cs = some written := by
  rw [Format.read?, h]

/-- A format reads nothing where one of its directives takes nothing. -/
theorem read?_of_foldl_eq_none {format : Format} {cs : List Char}
    (h : format.foldlM Directive.take (.unset, cs) = none) : format.read? cs = none := by
  rw [Format.read?, h]

/-- A format does not read a text of which it leaves something. -/
theorem read?_of_foldl_rest {format : Format} {cs rest : List Char} {written : WrittenTime}
    (h : format.foldlM Directive.take (.unset, cs) = some (written, rest)) (hrest : rest ≠ []) :
    format.read? cs = none := by
  obtain ⟨c, more, rfl⟩ := List.exists_cons_of_ne_nil hrest
  rw [Format.read?, h]

/-- A format that asks for an offset behind the seconds reads what the offset is taken for. -/
theorem read?_append_offset (h : form.Fits) {style : Style} (hstyle : style.Takes)
    {format : Format} {taken : Bool}
    (htake : format.foldlM Directive.take ({ form.fields with offset := 0 }, form.offset.text) =
      if taken then some (form.fields, []) else none) :
    (style.toSecond ++ format : Format).read? form.chars =
      if form.second.isSome && taken then some form.fields else none := by
  rw [Format.read?, List.foldlM_append, foldl_to_second h hstyle]
  cases form.second.isSome with
  | false => rfl
  | true =>
      simp only [if_true, Option.bind_eq_bind, Option.bind_some, htake]
      cases taken <;> rfl

/-- RFC 3339 asks for seconds and for an offset with a colon or the letter of UTC. -/
theorem read?_rfc3339 (h : form.Fits) :
    Format.rfc3339.read? form.chars =
      if form.second.isSome && (form.offset.isZone && form.offset.isHourly) then some form.fields
      else none := by
  have htake : [.zone].foldlM Directive.take ({ form.fields with offset := 0 }, form.offset.text) =
      if form.offset.isZone && form.offset.isHourly then some (form.fields, []) else none := by
    simp only [List.foldlM, Directive.take, Directive.setOffset, OffsetForm.take_zone_text h.offset]
    split <;> rfl
  exact read?_append_offset h Style.takes_strict htake

/-- The formats with an offset ask for seconds and for an offset in digits. -/
theorem read?_with_offset (h : form.Fits) {format : Format} (hformat : format ∈ Format.withOffset) :
    format.read? form.chars =
      if form.second.isSome && (form.offset.isNumeric && form.offset.isHourly) then
        some form.fields
      else none := by
  have htake := OffsetForm.take_offset_text h.offset
  have hblank : form.offset.text.dropWhile isWhitespace = form.offset.text :=
    (form.offset.stops (by decide)).drop_while
  simp only [Format.withOffset, List.mem_cons, List.not_mem_nil, or_false] at hformat
  rcases hformat with rfl | rfl <;> refine read?_append_offset h Style.takes_plain ?_ <;>
    simp only [List.foldlM, Directive.take, Directive.setOffset, hblank, htake] <;> split <;> rfl

/-- Without an offset the seconds are asked for, and nothing may follow them. -/
theorem read?_to_second (h : form.Fits) :
    Format.toSecond.read? form.chars =
      if form.second.isSome && decide (form.offset = .missing) then some form.fields
      else none := by
  have hread : Format.toSecond.foldlM Directive.take (.unset, form.chars) = _ :=
    foldl_to_second h Style.takes_plain
  cases hsecond : form.second.isSome with
  | false =>
      rw [hsecond] at hread
      exact read?_of_foldl_eq_none hread
  | true =>
      rw [hsecond] at hread
      by_cases hoffset : form.offset = .missing
      · have htext : form.offset.text = [] := congrArg OffsetForm.text hoffset
        have hfields : { form.fields with offset := 0 } = form.fields := by
          simp [fields, hoffset, OffsetForm.seconds]
        rw [if_pos rfl, htext, hfields] at hread
        rw [read?_of_foldl hread, hoffset]
        rfl
      · rw [read?_of_foldl_rest hread (mt OffsetForm.eq_missing_of_text hoffset)]
        simp [hoffset]

/-- Without an offset and without seconds nothing may follow the minutes. -/
theorem read?_to_minute (h : form.Fits) :
    Format.toMinute.read? form.chars =
      if form.second.isNone && decide (form.offset = .missing) then some form.fields
      else none := by
  have hread : Format.toMinute.foldlM Directive.take (.unset, form.chars) = _ :=
    foldl_to_minute h Style.takes_plain
  by_cases hbare : form.second = none ∧ form.offset = .missing
  · have htext : secondText form.second ++ form.offset.text = [] := by
      rw [hbare.1, hbare.2]
      rfl
    have hfields : form.toMinute = form.fields := by
      simp [fields, toMinute, wholeSecond, hbare, OffsetForm.seconds, nanosOfFraction, ofDigits]
    rw [htext, hfields] at hread
    rw [read?_of_foldl hread]
    simp [hbare]
  · have hrest : secondText form.second ++ form.offset.text ≠ [] := by
      intro htext
      obtain ⟨hsecond, hoffset⟩ := List.append_eq_nil_iff.mp htext
      exact hbare ⟨eq_none_of_second_text hsecond, OffsetForm.eq_missing_of_text hoffset⟩
    rw [read?_of_foldl_rest hread hrest]
    simpa using hbare

/-! ## Literals -/

/-- The form without the letter of UTC at its end. -/
def withoutLetter (form : TimestampForm) : TimestampForm :=
  { form with offset := form.offset.withoutLetter }

/-- What is written in front of the offset has a digit at its end. -/
theorem exists_bare_text (h : form.Fits) :
    ∃ bare, EndsInDigit bare ∧
      ∀ offset : OffsetForm, { form with offset := offset }.chars = bare ++ offset.text := by
  have hminute : EndsInDigit (paddedDigits 2 form.minute) :=
    .of_padded_digits 2 form.minute
  have htime : EndsInDigit (paddedDigits 2 form.minute ++ secondText form.second) := by
    have hdigits := h.fraction
    cases hsecond : form.second with
    | none => simpa [secondText] using hminute
    | some second =>
        obtain ⟨count, fraction⟩ := second
        simp only [wholeSecond, hsecond, Option.getD_some] at hdigits
        cases fraction with
        | nil =>
            simp only [secondText, fractionText, List.append_nil]
            exact ((EndsInDigit.of_padded_digits 2 count).cons ':').append _
        | cons c digits =>
            exact ((((EndsInDigit.of_digits (List.cons_ne_nil c digits) hdigits).cons '.').append
              (paddedDigits 2 count)).cons ':').append _
  refine ⟨paddedDigits 4 form.year ++ '-' :: (paddedDigits 2 form.month ++ '-' ::
    (paddedDigits 2 form.day ++ 'T' :: (paddedDigits 2 form.hour ++ ':' ::
      (paddedDigits 2 form.minute ++ secondText form.second)))), ?_, ?_⟩
  · exact (((((htime.cons ':').append _).cons 'T').append _).cons '-' |>.append _).cons '-' |>.append _
  · intro offset
    simp [chars]

/-- The letter of UTC is what is cut off from a form. -/
theorem trim_zone_chars (h : form.Fits) : trimZone form.chars = form.withoutLetter.chars := by
  obtain ⟨bare, hbare, hchars⟩ := exists_bare_text h
  have hform : form.chars = bare ++ form.offset.text := hchars form.offset
  rw [hform, withoutLetter, hchars, OffsetForm.trim_zone_append hbare]

/-- Without the letter of UTC a form says the same. -/
theorem fields_without_letter (form : TimestampForm) : form.withoutLetter.fields = form.fields := by
  obtain ⟨year, month, day, hour, minute, second, offset⟩ := form
  cases offset <;> rfl

theorem Fits.without_letter (h : form.Fits) : form.withoutLetter.Fits where
  year := h.year
  month := h.month
  day := h.day
  hour := h.hour
  minute := h.minute
  second := h.second
  fraction := h.fraction
  offset := OffsetForm.fits_without_letter h.offset

/-- A format makes a timestamp of what it reads. -/
theorem timestamp?_of_read? {format : Format} {cs : List Char} {written : WrittenTime}
    {condition : Bool} (h : format.read? cs = if condition then some written else none) :
    format.timestamp? cs = if condition then written.timestamp? else none := by
  rw [Format.timestamp?, h]
  cases condition <;> rfl

/-- The formats with an offset denote what the form says with seconds and an offset in digits. -/
theorem find_with_offset (h : form.Fits) :
    Format.withOffset.findSome? (·.timestamp? form.chars) =
      if form.second.isSome && (form.offset.isNumeric && form.offset.isHourly) then
        form.fields.timestamp?
      else none := by
  have hformat := fun (format : Format) (hmem : format ∈ Format.withOffset) =>
    timestamp?_of_read? (read?_with_offset h hmem)
  rw [Format.withOffset, List.forall_mem_cons, List.forall_mem_singleton] at hformat
  rw [Format.withOffset, List.findSome?_cons, List.findSome?_cons, hformat.1, hformat.2]
  generalize (if form.second.isSome && (form.offset.isNumeric && form.offset.isHourly) then
    form.fields.timestamp? else none) = timestamp
  cases timestamp <;> rfl

/-- The formats without an offset denote what the form says without one. -/
theorem find_without_offset (h : form.Fits) :
    Format.withoutOffset.findSome? (·.timestamp? form.chars) =
      if decide (form.offset = .missing) then form.fields.timestamp? else none := by
  have hsecond := timestamp?_of_read? (read?_to_second h)
  have hminute := timestamp?_of_read? (read?_to_minute h)
  rw [Format.withoutOffset, List.findSome?_cons, List.findSome?_cons, hsecond, hminute]
  cases form.second <;> cases decide (form.offset = .missing) <;>
    cases form.fields.timestamp? <;> rfl

/-- A literal is denoted by what the form says if it is a form that is parsed. -/
theorem of_literal?_chars (h : form.Fits) :
    Timestamp.ofLiteral? form.chars =
      if form.isAdmitted && form.offset.isHourly then form.fields.timestamp? else none := by
  rw [Timestamp.ofLiteral?, trim_zone_chars h, timestamp?_of_read? (read?_rfc3339 h),
    find_with_offset h, find_without_offset h.without_letter, fields_without_letter]
  generalize form.fields.timestamp? = timestamp
  obtain ⟨year, month, day, hour, minute, second, offset⟩ := form
  cases offset with
  | missing => cases second <;> rfl
  | letter small => cases second <;> cases timestamp <;> rfl
  | numeric west hours minutes colon =>
      cases second with
      | none => rfl
      | some second =>
          by_cases hhourly : minutes < 60 <;> cases colon <;> cases timestamp <;>
            simp [isAdmitted, withoutLetter, OffsetForm.isZone, OffsetForm.isNumeric,
              OffsetForm.isHourly, OffsetForm.withoutLetter, hhourly]

/-- What literals of a real form denote. -/
theorem of_literal?_of_is_real (h : form.IsReal) :
    Timestamp.ofLiteral? form.chars = if form.isAdmitted then some form.instant else none := by
  rw [of_literal?_chars h.fits, OffsetForm.is_hourly_of_is_real h.offset, Bool.and_true,
    timestamp?_fields h]

/-- A form denotes a timestamp as a literal just if it is possible and one that is parsed. -/
theorem of_literal?_is_some_iff (h : form.Fits) :
    (Timestamp.ofLiteral? form.chars).isSome ↔ form.IsPossible ∧ form.isAdmitted := by
  rw [of_literal?_chars h]
  constructor
  · intro hsome
    split at hsome
    · next hforms =>
        obtain ⟨hadmitted, hhourly⟩ := Bool.and_eq_true_iff.mp hforms
        exact ⟨(timestamp?_fields_is_some_iff h hhourly).mp hsome, hadmitted⟩
    · cases hsome
  · rintro ⟨hpossible, hadmitted⟩
    have hhourly := OffsetForm.is_hourly_of_is_real hpossible.offset
    rw [hadmitted, hhourly]
    exact (timestamp?_fields_is_some_iff h hhourly).mpr hpossible

/-! ## Interchange text -/

/-- Interchange text may write the offset in every form. -/
theorem read?_interchange (h : form.Fits) (hsecond : form.second.isSome)
    (hoffset : form.offset ≠ .missing) (hhourly : form.offset.isHourly) :
    Format.interchange.read? form.chars = some form.fields := by
  have hzone := OffsetForm.take_zone_name_text h.offset hoffset
  rw [if_pos hhourly] at hzone
  have hblank : Stops isWhitespace form.offset.text := form.offset.stops (by decide)
  have htake : [.whitespace, .zoneName, .whitespace].foldlM Directive.take
      ({ form.fields with offset := 0 }, form.offset.text) =
        if true then some (form.fields, []) else none := by
    simp [List.foldlM, Directive.take_whitespace hblank, Directive.take_zone_name hzone,
      Directive.take_whitespace (.nil isWhitespace), fields]
  have hread := read?_append_offset h Style.takes_lenient htake
  rw [hsecond] at hread
  exact hread

end TimestampForm

end TextTemplate.Time
