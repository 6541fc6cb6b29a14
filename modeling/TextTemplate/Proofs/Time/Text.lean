import TextTemplate.Proofs.Time.Formats

/-!
# Timestamps and their text

The clock of a timestamp shows the time that the timestamp was made from, and a timestamp with a
year of four digits and an offset of whole minutes is read back from its text. Every timestamp
literal denotes such a timestamp.
-/

namespace TextTemplate.Time

open TextTemplate.Number Timestamp

/-! ## Clocks -/

/-- The clock shows the date and the time of day that its seconds count. -/
theorem to_clock_eq {date : Date} (hdate : date.isReal) {hour minute second : Nat}
    (hhour : hour < 24) (hminute : minute < 60) (hsecond : second < 60) (nanos : Nat)
    (offset : Int) :
    (Timestamp.mk (date.dayNumber * 86400 + (hour * 3600 + minute * 60) + second - offset) nanos
        offset).toClock =
      { date, hour, minute
        second := second + if nanosPerSecond ≤ nanos then 1 else 0
        nanos := if nanosPerSecond ≤ nanos then nanos - nanosPerSecond else nanos } := by
  have hday : (date.dayNumber * 86400 + (hour * 3600 + minute * 60) + second - offset + offset) /
      86400 = date.dayNumber := by omega
  have hrest : ((date.dayNumber * 86400 + (hour * 3600 + minute * 60) + second - offset + offset) %
      86400).toNat = hour * 3600 + minute * 60 + second := by omega
  have hhours : (hour * 3600 + minute * 60 + second) / 3600 = hour := by omega
  have hminutes : (hour * 3600 + minute * 60 + second) / 60 % 60 = minute := by omega
  have hseconds : (hour * 3600 + minute * 60 + second) % 60 = second := by omega
  simp only [Timestamp.toClock, hday, hrest, hhours, hminutes, hseconds, decide_eq_true_eq,
    Date.of_day_number_day_number hdate]

/-- A real time is what the clock of its timestamp shows. -/
theorem to_clock_of_clock {time : ClockTime} (h : time.isReal) (offset : Int) :
    (Timestamp.ofClock time offset).toClock = time := by
  obtain ⟨date, hour, minute, second, nanos⟩ := time
  simp only [ClockTime.isReal, Bool.and_eq_true, decide_eq_true_eq] at h
  obtain ⟨⟨⟨⟨hdate, hhour⟩, hminute⟩, hsecond⟩, hnanos⟩ := h
  simp only [Timestamp.ofClock]
  split
  · next hleap =>
      -- A leap second is counted as the second before it, with a thousand million more nanoseconds.
      have hshown := to_clock_eq hdate hhour hminute (show 59 < 60 by decide)
        (nanos + nanosPerSecond) offset
      rw [if_pos (Nat.le_add_left _ _), if_pos (Nat.le_add_left _ _), Nat.add_sub_cancel] at hshown
      rw [hleap]
      exact hshown
  · next hleap =>
      have hshown := to_clock_eq hdate hhour hminute (show second < 60 by omega) nanos offset
      rw [if_neg (Nat.not_le.mpr hnanos), if_neg (Nat.not_le.mpr hnanos)] at hshown
      exact hshown

/-! ## Fractions -/

/-- The digits of a fraction, three, six or nine, denote the nanoseconds. -/
theorem nanos_of_fraction_padded_digits {width unit count : Nat} (hwidth : 0 < width)
    (hnine : width ≤ 9) (hunit : unit = 10 ^ (9 - width)) (hcount : count < 10 ^ width) :
    nanosOfFraction (paddedDigits width count) = count * unit := by
  have hlength := length_padded_digits hwidth hcount
  have htake : (paddedDigits width count).take 9 = paddedDigits width count :=
    List.take_of_length_le (by omega)
  rw [nanosOfFraction, htake, of_digits_padded_digits, hlength, hunit]
  rfl

/-- What is written of the nanoseconds is a fraction that denotes them. -/
theorem exists_fraction_text {nanos : Nat} (h : nanos < nanosPerSecond) :
    ∃ digits, fractionText digits = fractionDigits nanos ∧ (∀ c ∈ digits, c.isDigit) ∧
      nanosOfFraction digits = nanos := by
  rw [nanosPerSecond] at h
  -- Three, six or nine digits are written, as many as the nanoseconds need.
  have hdigits : ∀ width unit count : Nat, 0 < width → width ≤ 9 → unit = 10 ^ (9 - width) →
      count < 10 ^ width → count * unit = nanos →
      ∃ digits, fractionText digits = '.' :: paddedDigits width count ∧
        (∀ c ∈ digits, c.isDigit) ∧ nanosOfFraction digits = nanos := by
    intro width unit count hwidth hnine hunit hcount htotal
    refine ⟨paddedDigits width count, ?_, is_digit_of_mem_padded_digits, ?_⟩
    · have hlength := length_padded_digits hwidth hcount
      cases hpadded : paddedDigits width count with
      | nil =>
          rw [hpadded, List.length_nil] at hlength
          omega
      | cons c digits => rfl
    · rw [nanos_of_fraction_padded_digits hwidth hnine hunit hcount, htotal]
  rw [fractionDigits]
  split
  · next hnanos =>
      refine ⟨[], rfl, nofun, ?_⟩
      rw [hnanos]
      rfl
  · split
    · exact hdigits 3 1000000 _ (by decide) (by decide) (by decide) (by omega) (by omega)
    · split
      · exact hdigits 6 1000 _ (by decide) (by decide) (by decide) (by omega) (by omega)
      · exact hdigits 9 1 _ (by decide) (by decide) (by decide) (by omega) (by omega)

/-! ## Offsets -/

/-- An offset of whole minutes within a day. -/
structure IsWholeMinutes (offset : Int) : Prop where
  whole : offset % 60 = 0
  withinDay : -86400 < offset ∧ offset < 86400

/-- An offset of whole minutes is written as the letter or in digits. -/
theorem exists_offset_form {offset : Int} (h : IsWholeMinutes offset) (zero : ZeroOffset) :
    ∃ form : OffsetForm, form.text = offsetDigits zero offset ∧ form.isReal ∧
      form.seconds = offset ∧ form ≠ .missing := by
  obtain ⟨hwhole, hday⟩ := h
  by_cases hletter : offset = 0 ∧ zero = .letter
  · refine ⟨.letter false, ?_, rfl, hletter.1.symm, nofun⟩
    rw [offsetDigits, if_pos hletter]
    rfl
  · refine ⟨.numeric (offset < 0) (offset.natAbs / 60 / 60) (offset.natAbs / 60 % 60) true,
      ?_, ?_, ?_, nofun⟩
    · rw [offsetDigits, if_neg hletter]
      simp [OffsetForm.text]
    · simp only [OffsetForm.isReal, Bool.and_eq_true, decide_eq_true_eq]
      omega
    · simp only [OffsetForm.seconds, decide_eq_true_eq]
      split <;> omega

/-- A real offset is one of whole minutes. -/
theorem is_whole_minutes_of_is_real {offset : OffsetForm} (h : offset.isReal) :
    IsWholeMinutes offset.seconds := by
  cases offset with
  | numeric west hours minutes colon =>
      simp only [OffsetForm.isReal, Bool.and_eq_true, decide_eq_true_eq] at h
      constructor <;> simp only [OffsetForm.seconds] <;> split <;> omega
  | _ => exact ⟨rfl, by simp [OffsetForm.seconds]⟩

/-! ## Timestamps -/

/-- A timestamp that template literals can denote: one that a clock shows in a year of four digits,
at an offset of whole minutes. -/
structure Timestamp.IsWritten (t : Timestamp) : Prop where
  isReal : t.toClock.isReal
  isShown : .ofClock t.toClock t.offset = t
  year : 0 ≤ t.toClock.date.year ∧ t.toClock.date.year < 10000
  offset : IsWholeMinutes t.offset

/-- What the clock of a written timestamp shows makes the timestamp. -/
theorem Timestamp.IsWritten.timestamp? {t : Timestamp} (h : t.IsWritten) :
    (WrittenTime.mk t.toClock t.offset).timestamp? = some t := by
  have hday := h.offset.withinDay
  have htimestamp := @timestamp?_of_is_real ⟨t.toClock, t.offset⟩ h.isReal h.year
    (show t.offset.natAbs < 86400 by omega)
  exact htimestamp.trans (congrArg some h.isShown)

/-- A written timestamp has a form that says what its clock shows and whose characters, with seconds
and an offset, are its text. -/
theorem exists_form {t : Timestamp} (h : t.IsWritten) (zero : ZeroOffset) :
    ∃ form : TimestampForm, form.chars = t.digits zero ∧ form.Fits ∧
      form.fields = ⟨t.toClock, t.offset⟩ ∧ form.second.isSome ∧ form.offset ≠ .missing ∧
      form.offset.isHourly := by
  obtain ⟨hreal, -, hyear, hoffset⟩ := id h
  simp only [ClockTime.isReal, Bool.and_eq_true, decide_eq_true_eq] at hreal
  obtain ⟨⟨⟨⟨hdate, hhour⟩, hminute⟩, hsecond⟩, hnanos⟩ := hreal
  obtain ⟨hmonth, hday, -, -⟩ := Date.in_month_of_is_real hdate
  obtain ⟨fraction, htext, hdigits, hfraction⟩ := exists_fraction_text hnanos
  obtain ⟨offset, hoffsetText, hoffsetReal, hoffsetSeconds, hwritten⟩ :=
    exists_offset_form hoffset zero
  let form : TimestampForm :=
    { year := t.toClock.date.year.toNat
      month := t.toClock.date.month
      day := t.toClock.date.day
      hour := t.toClock.hour
      minute := t.toClock.minute
      second := some (t.toClock.second, fraction)
      offset := offset }
  have hchars : form.chars = t.digits zero := by
    simp [form, TimestampForm.chars, secondText, htext, hoffsetText, digits, yearDigits, hyear]
  have hfits : form.Fits :=
    { year := show t.toClock.date.year.toNat < 10000 by omega
      month := show t.toClock.date.month < 100 by omega
      day := show t.toClock.date.day < 100 by omega
      hour := show t.toClock.hour < 100 by omega
      minute := show t.toClock.minute < 100 by omega
      second := show t.toClock.second < 100 by omega
      fraction := hdigits
      offset := OffsetForm.fits_of_is_real hoffsetReal }
  have hfields : form.fields = ⟨t.toClock, t.offset⟩ := by
    simp [form, TimestampForm.fields, TimestampForm.wholeSecond, hfraction, hoffsetSeconds,
      Int.toNat_of_nonneg hyear.1]
  exact ⟨form, hchars, hfits, hfields, rfl, hwritten,
    OffsetForm.is_hourly_of_is_real hoffsetReal⟩

/-- A timestamp that literals can denote is denoted by its text. -/
theorem of_literal?_digits {t : Timestamp} (h : t.IsWritten) :
    ofLiteral? (t.digits .digits) = some t := by
  obtain ⟨form, hchars, hfits, hfields, hsecond, -, hhourly⟩ := exists_form h .digits
  rw [← hchars, form.of_literal?_chars hfits, TimestampForm.isAdmitted, hsecond, hhourly, hfields]
  exact h.timestamp?

/-- A timestamp that literals can denote is denoted by its interchange text. -/
theorem of_interchange?_digits {t : Timestamp} (h : t.IsWritten) :
    ofInterchange? (t.digits .letter) = some t := by
  obtain ⟨form, hchars, hfits, hfields, hsecond, hoffset, hhourly⟩ := exists_form h .letter
  rw [← hchars, ofInterchange?, Format.timestamp?,
    form.read?_interchange hfits hsecond hoffset hhourly, hfields]
  exact h.timestamp?

/-! ## What literals denote -/

/-- What a form denotes as a literal is a timestamp that literals can denote again. -/
theorem is_written_of_literal? {form : TimestampForm} (hfits : form.Fits) {t : Timestamp}
    (h : ofLiteral? form.chars = some t) : t.IsWritten := by
  obtain ⟨hpossible, hadmitted⟩ :=
    (form.of_literal?_is_some_iff hfits).mp (Option.isSome_of_mem h)
  rw [form.of_literal?_chars hfits, hadmitted, OffsetForm.is_hourly_of_is_real hpossible.offset,
    Bool.and_self, if_pos rfl, form.timestamp?_of_is_possible hfits hpossible] at h
  obtain rfl := Option.some.inj h
  have hreal := (form.is_real_clock_iff hfits hpossible.offset).mpr hpossible
  have hclock := to_clock_of_clock hreal form.offset.seconds
  have hoffset : (ofClock form.fields.clock form.offset.seconds).offset = form.offset.seconds := by
    rw [ofClock]
    split <;> rfl
  constructor
  · rw [hclock]
    exact hreal
  · rw [hclock, hoffset]
  · rw [hclock]
    exact ⟨Int.natCast_nonneg _, Int.ofNat_lt.mpr hfits.year⟩
  · rw [hoffset]
    exact is_whole_minutes_of_is_real hpossible.offset

end TextTemplate.Time
