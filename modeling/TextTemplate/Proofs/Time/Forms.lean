import TextTemplate.Proofs.Grammar.Tokens
import TextTemplate.Proofs.Time.Days
import TextTemplate.Time.Reader

/-!
# The written forms of timestamps

A timestamp may leave out the fraction, the seconds and the offset, and an offset may be a letter or
digits with or without a colon. What a form says makes a timestamp just if calendar and clock have
it (`TimestampForm.timestamp?_fields_is_some_iff`), and this timestamp is the instant that they say
(`TimestampForm.timestamp?_fields`).
-/

namespace TextTemplate.Time

open TextTemplate.Grammar TextTemplate.Number

/-! ## Forms -/

/-- An offset as literals write it. -/
inductive OffsetForm where
  | missing
  | letter (small : Bool)
  | numeric (west : Bool) (hours minutes : Nat) (colon : Bool)
deriving DecidableEq, Repr

namespace OffsetForm

/-- The characters of the offset. -/
def text : OffsetForm → List Char
  | missing => []
  | letter small => [if small then 'z' else 'Z']
  | numeric west hours minutes colon => (if west then '-' else '+') ::
      (paddedDigits 2 hours ++ ((if colon then [':'] else []) ++ paddedDigits 2 minutes))

/-- The seconds east of Greenwich. -/
def seconds : OffsetForm → Int
  | numeric west hours minutes _ => (if west then -1 else 1) * (hours * 3600 + minutes * 60 : Nat)
  | _ => 0

/-- Whether the offset is written in digits. -/
def isNumeric : OffsetForm → Bool
  | numeric _ _ _ _ => true
  | _ => false

/-- Whether a clock can be set to the offset. -/
def isReal : OffsetForm → Bool
  | numeric _ hours minutes _ => decide (hours < 24) && decide (minutes < 60)
  | _ => true

/-- Whether the minutes are less than an hour. -/
def isHourly : OffsetForm → Bool
  | numeric _ _ minutes _ => decide (minutes < 60)
  | _ => true

/-- Whether two digits suffice for the hours and for the minutes. -/
def fits : OffsetForm → Bool
  | numeric _ hours minutes _ => decide (hours < 100) && decide (minutes < 100)
  | _ => true

theorem is_hourly_of_is_real {offset : OffsetForm} (h : offset.isReal) : offset.isHourly := by
  cases offset with
  | numeric west hours minutes colon => exact (Bool.and_eq_true_iff.mp h).2
  | _ => rfl

/-- Less than an hour of minutes makes a real offset if they are less than a day with the hours. -/
theorem is_real_iff {offset : OffsetForm} (h : offset.isHourly) :
    offset.isReal ↔ offset.seconds.natAbs < 86400 := by
  cases offset with
  | numeric west hours minutes colon =>
      simp only [isHourly, decide_eq_true_eq] at h
      simp only [isReal, seconds, Bool.and_eq_true, decide_eq_true_eq]
      split <;> omega
  | _ => exact iff_of_true rfl (Nat.zero_lt_succ _)

theorem fits_of_is_real {offset : OffsetForm} (h : offset.isReal) : offset.fits := by
  cases offset with
  | numeric west hours minutes colon =>
      simp only [isReal, fits, Bool.and_eq_true, decide_eq_true_eq] at h ⊢
      omega
  | _ => rfl

end OffsetForm

/-- A timestamp as literals write it. -/
structure TimestampForm where
  year : Nat
  month : Nat
  day : Nat
  hour : Nat
  minute : Nat
  /-- The second, if it is written, with the digits of its fraction. -/
  second : Option (Nat × List Char)
  offset : OffsetForm
deriving DecidableEq, Repr

/-- The fraction of a second, with its point if it has digits. -/
def fractionText : List Char → List Char
  | [] => []
  | c :: digits => '.' :: c :: digits

/-- The second with its colon, if it is written. -/
def secondText : Option (Nat × List Char) → List Char
  | none => []
  | some (second, fraction) => ':' :: (paddedDigits 2 second ++ fractionText fraction)

namespace TimestampForm

/-- The characters of the timestamp. -/
def chars (form : TimestampForm) : List Char :=
  paddedDigits 4 form.year ++ '-' :: (paddedDigits 2 form.month ++ '-' ::
    (paddedDigits 2 form.day ++ 'T' :: (paddedDigits 2 form.hour ++ ':' ::
      (paddedDigits 2 form.minute ++ (secondText form.second ++ form.offset.text)))))

/-- The text of the timestamp. -/
def text (form : TimestampForm) : String :=
  String.ofList form.chars

/-- The count of seconds and the digits of the fraction; what is not written is zero. -/
def wholeSecond (form : TimestampForm) : Nat × List Char :=
  form.second.getD (0, [])

/-- The calendar has the date, the clock shows the time, and the offset is less than a day. -/
structure IsReal (form : TimestampForm) : Prop where
  year : form.year < 10000
  date : Date.isReal ⟨form.year, form.month, form.day⟩
  hour : form.hour < 24
  minute : form.minute < 60
  second : form.wholeSecond.1 < 60
  fraction : ∀ c ∈ form.wholeSecond.2, c.isDigit
  offset : form.offset.isReal

/-- The calendar has the date, clocks show the time, at least in a minute with a leap second, and the
offset is less than a day. -/
structure IsPossible (form : TimestampForm) : Prop where
  date : Date.isReal ⟨form.year, form.month, form.day⟩
  hour : form.hour < 24
  minute : form.minute < 60
  second : form.wholeSecond.1 ≤ 60
  offset : form.offset.isReal

/-- What is real is possible. -/
theorem IsReal.is_possible {form : TimestampForm} (h : form.IsReal) : form.IsPossible where
  date := h.date
  hour := h.hour
  minute := h.minute
  second := Nat.le_of_lt h.second
  offset := h.offset

/-- The numbers have as many digits as they are written with. -/
structure Fits (form : TimestampForm) : Prop where
  year : form.year < 10000
  month : form.month < 100
  day : form.day < 100
  hour : form.hour < 100
  minute : form.minute < 100
  second : form.wholeSecond.1 < 100
  fraction : ∀ c ∈ form.wholeSecond.2, c.isDigit
  offset : form.offset.fits

/-- What calendars and clocks have fits into the digits. -/
theorem IsReal.fits {form : TimestampForm} (h : form.IsReal) : form.Fits := by
  obtain ⟨hmonth, hday, -, -⟩ := Date.in_month_of_is_real h.date
  simp only at hmonth hday
  exact
    { year := h.year
      month := by omega
      day := by omega
      hour := Nat.lt_trans h.hour (by omega)
      minute := Nat.lt_trans h.minute (by omega)
      second := Nat.lt_trans h.second (by omega)
      fraction := h.fraction
      offset := OffsetForm.fits_of_is_real h.offset }

/-- The instant: the seconds from the beginning of 1970 to the time on the clock, less the offset,
and as many nanoseconds as the fraction has. -/
def instant (form : TimestampForm) : Timestamp where
  seconds := countDays form.year form.month form.day * 86400 +
    (form.hour * 3600 + form.minute * 60 + form.wholeSecond.1 : Nat) - form.offset.seconds
  nanos := ofDigits form.wholeSecond.2 * nanosPerSecond / 10 ^ form.wholeSecond.2.length
  offset := form.offset.seconds

/-- What the form says. -/
def fields (form : TimestampForm) : WrittenTime where
  clock :=
    { date := ⟨form.year, form.month, form.day⟩
      hour := form.hour
      minute := form.minute
      second := form.wholeSecond.1
      nanos := nanosOfFraction form.wholeSecond.2 }
  offset := form.offset.seconds

/-- Whether the form is one that is parsed. -/
def isAdmitted (form : TimestampForm) : Bool :=
  form.second.isSome || !form.offset.isNumeric

end TimestampForm

/-! ## Instants -/

/-- The nanoseconds are what the fraction is of a thousand million, rounded down. -/
theorem nanos_of_fraction_eq {digits : List Char} (h : ∀ c ∈ digits, c.isDigit) :
    nanosOfFraction digits = ofDigits digits * nanosPerSecond / 10 ^ digits.length := by
  have hnine : nanosPerSecond = 10 ^ 9 := rfl
  rw [nanosOfFraction, hnine]
  show _ * 10 ^ (9 - (digits.take 9).length) = _
  by_cases hshort : digits.length ≤ 9
  · -- Few digits are all kept, and zeros are put behind them.
    have hsplit : 10 ^ 9 = 10 ^ (9 - digits.length) * 10 ^ digits.length := by
      rw [← Nat.pow_add, Nat.sub_add_cancel hshort]
    rw [List.take_of_length_le hshort, hsplit, ← Nat.mul_assoc,
      Nat.mul_div_cancel _ (Nat.pow_pos (by decide))]
  · -- Of many digits the first nine are kept; the others are less than a nanosecond.
    have hkept : (digits.take 9).length = 9 := by
      rw [List.length_take]
      omega
    have hrest : ofDigits (digits.drop 9) < 10 ^ (digits.drop 9).length :=
      of_digits_lt fun c hc => h c (List.mem_of_mem_drop hc)
    have hlength : digits.length = 9 + (digits.drop 9).length := by
      rw [List.length_drop]
      omega
    have hdigits := of_digits_append (digits.take 9) (digits.drop 9)
    rw [List.take_append_drop] at hdigits
    rw [hkept, Nat.sub_self, Nat.pow_zero, Nat.mul_one, hlength, Nat.pow_add,
      Nat.mul_comm (ofDigits digits), Nat.mul_div_mul_left _ _ (Nat.pow_pos (by decide)), hdigits,
      Nat.mul_add_div (Nat.pow_pos (by decide)), Nat.div_eq_of_lt hrest, Nat.add_zero]

/-! ## Timestamps -/

/-- Timestamps reach a date with a year of four digits from every offset. -/
theorem is_reached_of_year {date : Date} (hdate : date.isReal)
    (hyear : 0 ≤ date.year ∧ date.year < 10000) {day : Int}
    (hday : date.dayNumber - 2 ≤ day ∧ day ≤ date.dayNumber + 2) : isReached day := by
  obtain ⟨hmonth, hdays, -, -⟩ := Date.in_month_of_is_real hdate
  have hfirst : Date.dayNumber ⟨-262143, 1, 1⟩ = -96465292 := by decide
  have hlast : Date.dayNumber ⟨262142, 12, 31⟩ = 95026236 := by decide
  simp only [isReached, hfirst, hlast, Bool.and_eq_true, decide_eq_true_eq]
  simp only [Date.dayNumber, daysPerCycle, cycleOrigin] at hday
  split at hday <;> omega

/-- What is written in years of four digits makes a timestamp if calendar and clock have it and the
offset is less than a day. -/
theorem timestamp?_of_is_real {written : WrittenTime} (hreal : written.clock.isReal)
    (hyear : 0 ≤ written.clock.date.year ∧ written.clock.date.year < 10000)
    (hoffset : written.offset.natAbs < 86400) :
    written.timestamp? = some (.ofClock written.clock written.offset) := by
  have hparts := hreal
  simp only [ClockTime.isReal, Bool.and_eq_true, decide_eq_true_eq] at hparts
  obtain ⟨⟨⟨⟨hdate, hhour⟩, hminute⟩, hsecond⟩, -⟩ := hparts
  have hshown : isReached written.clock.date.dayNumber :=
    is_reached_of_year hdate hyear (by omega)
  have hinstant : isReached ((Timestamp.ofClock written.clock written.offset).seconds / 86400) := by
    refine is_reached_of_year hdate hyear ?_
    rw [Timestamp.ofClock]
    split <;> simp only <;> omega
  rw [WrittenTime.timestamp?, if_pos]
  simp only [hreal, hshown, hinstant, hoffset, decide_true, Bool.and_self]

namespace TimestampForm

variable {form : TimestampForm}

/-- A fraction is less than a second. -/
theorem Fits.nanos_lt (h : form.Fits) : nanosOfFraction form.wholeSecond.2 < nanosPerSecond := by
  have hpositive : 0 < nanosPerSecond := Nat.zero_lt_succ _
  rw [nanos_of_fraction_eq h.fraction]
  exact Nat.div_lt_of_lt_mul (Nat.mul_lt_mul_of_pos_right (of_digits_lt h.fraction) hpositive)

/-- What the form says is a time on a clock just if calendar and clock have it. -/
theorem is_real_clock_iff (h : form.Fits) (hoffset : form.offset.isReal) :
    form.fields.clock.isReal ↔ form.IsPossible := by
  have hclock : form.fields.clock.isReal ↔
      (((Date.isReal ⟨form.year, form.month, form.day⟩ ∧ form.hour < 24) ∧ form.minute < 60) ∧
        form.wholeSecond.1 ≤ 60) ∧ nanosOfFraction form.wholeSecond.2 < nanosPerSecond := by
    simp only [ClockTime.isReal, Bool.and_eq_true, decide_eq_true_eq]
    exact Iff.rfl
  rw [hclock]
  constructor
  · rintro ⟨⟨⟨⟨hdate, hhour⟩, hminute⟩, hsecond⟩, -⟩
    exact ⟨hdate, hhour, hminute, hsecond, hoffset⟩
  · rintro ⟨hdate, hhour, hminute, hsecond, -⟩
    exact ⟨⟨⟨⟨hdate, hhour⟩, hminute⟩, hsecond⟩, h.nanos_lt⟩

/-- What a possible form says makes a timestamp. -/
theorem timestamp?_of_is_possible (h : form.Fits) (hpossible : form.IsPossible) :
    form.fields.timestamp? = some (.ofClock form.fields.clock form.offset.seconds) :=
  timestamp?_of_is_real ((is_real_clock_iff h hpossible.offset).mpr hpossible)
    ⟨Int.natCast_nonneg _, Int.ofNat_lt.mpr h.year⟩
    ((OffsetForm.is_real_iff (OffsetForm.is_hourly_of_is_real hpossible.offset)).mp
      hpossible.offset)

/-- What a form says makes a timestamp just if the form is possible. -/
theorem timestamp?_fields_is_some_iff (h : form.Fits) (hhourly : form.offset.isHourly) :
    form.fields.timestamp?.isSome ↔ form.IsPossible := by
  constructor
  · intro hsome
    rw [WrittenTime.timestamp?] at hsome
    split at hsome
    · next hparts =>
        simp only [Bool.and_eq_true, decide_eq_true_eq] at hparts
        obtain ⟨⟨⟨hreal, hoffset⟩, -⟩, -⟩ := hparts
        exact (is_real_clock_iff h ((OffsetForm.is_real_iff hhourly).mpr hoffset)).mp hreal
    · cases hsome
  · intro hpossible
    rw [timestamp?_of_is_possible h hpossible]
    rfl

/-- What a real form says is its instant. -/
theorem timestamp?_fields (h : form.IsReal) : form.fields.timestamp? = some form.instant := by
  have hleap : form.wholeSecond.1 ≠ 60 := Nat.ne_of_lt h.second
  rw [timestamp?_of_is_possible h.fits h.is_possible, Timestamp.ofClock, fields, if_neg hleap,
    instant, ← nanos_of_fraction_eq h.fraction, Date.day_number_eq_count h.date]
  simp only [Option.some.injEq, Timestamp.mk.injEq, and_true]
  omega

end TimestampForm

end TextTemplate.Time
