import TextTemplate.Time.Calendar

/-!
# Day numbers

Every date that the calendar has is found again from its day number. Both conversions count years
from the first of March, and within four hundred years they split a year into centuries, spans of
four years and single years.
-/

namespace TextTemplate.Time

/-! ## Years -/

/-- The number of the year is found from a day of the four hundred years. Only the last year of four
years has a day 365, and the last of a century only at the end of the four hundred years. -/
theorem year_of_split {century four single day dayOfCycle : Int}
    (hcentury : 0 ≤ century ∧ century < 4) (hfour : 0 ≤ four ∧ four < 25)
    (hsingle : 0 ≤ single ∧ single < 4) (hday : 0 ≤ day ∧ day ≤ 365)
    (hleap : day = 365 → single = 3 ∧ (four = 24 → century = 3))
    (hcycle : dayOfCycle = 36524 * century + 1461 * four + 365 * single + day) :
    (dayOfCycle - dayOfCycle / 1460 + dayOfCycle / 36524 - dayOfCycle / 146096) / 365 =
      100 * century + 4 * four + single := by
  -- Of the quotients in the formula each is exact but for the last days of its period.
  have hcenturies : dayOfCycle / 36524 = century ∨
      (dayOfCycle / 36524 = 4 ∧ dayOfCycle = 146096 ∧ century = 3 ∧ four = 24 ∧ single = 3) := by
    omega
  have hlast : dayOfCycle / 146096 = 0 ∨ (dayOfCycle / 146096 = 1 ∧ dayOfCycle = 146096) := by
    omega
  have hfours : dayOfCycle / 1460 = 25 * century + four ∨
      dayOfCycle / 1460 = 25 * century + four + 1 := by omega
  omega

/-- Every year of four hundred splits into centuries, spans of four years and single years. -/
theorem exists_split_year {year : Int} (h : 0 ≤ year ∧ year < 400) :
    ∃ century four single : Int, (0 ≤ century ∧ century < 4) ∧ (0 ≤ four ∧ four < 25) ∧
      (0 ≤ single ∧ single < 4) ∧ year = 100 * century + 4 * four + single := by
  refine ⟨year / 100, year % 100 / 4, year % 100 % 4, ?_, ?_, ?_, ?_⟩ <;> omega

/-- The number of the year is found from the days that the years before it and the year itself have
had. -/
theorem year_of_day_of_cycle {year day dayOfCycle : Int} (hyear : 0 ≤ year ∧ year < 400)
    (hday : 0 ≤ day ∧ day ≤ 365) (hleap : day = 365 → isLeapYear (year + 1))
    (hcycle : dayOfCycle = 365 * year + year / 4 - year / 100 + day) :
    (0 ≤ dayOfCycle ∧ dayOfCycle < daysPerCycle) ∧
      (dayOfCycle - dayOfCycle / 1460 + dayOfCycle / 36524 - dayOfCycle / 146096) / 365 =
        year := by
  obtain ⟨century, four, single, hcentury, hfour, hsingle, rfl⟩ := exists_split_year hyear
  have hfours : (100 * century + 4 * four + single) / 4 = 25 * century + four := by omega
  have hcenturies : (100 * century + 4 * four + single) / 100 = century := by omega
  have hsplit : dayOfCycle = 36524 * century + 1461 * four + 365 * single + day := by omega
  have hlast : day = 365 → single = 3 ∧ (four = 24 → century = 3) := by
    intro h
    have hyear := hleap h
    simp only [isLeapYear, Bool.and_eq_true, Bool.or_eq_true, beq_iff_eq, bne_iff_ne] at hyear
    omega
  refine ⟨?_, year_of_split hcentury hfour hsingle hday hlast hsplit⟩
  rw [daysPerCycle]
  omega

/-! ## Months -/

/-- The month is found from the days since the first of March, which are 365 only on the leap
day. -/
theorem month_of_days {month day days : Int} (hmonth : 0 ≤ month ∧ month < 12)
    (hday : 1 ≤ day ∧ day ≤ 31)
    (hshort : month = 1 ∨ month = 3 ∨ month = 6 ∨ month = 8 → day ≤ 30)
    (hlast : month = 11 → day ≤ 29) (hdays : days = (153 * month + 2) / 5 + day - 1) :
    (0 ≤ days ∧ days ≤ 365) ∧ (days = 365 → month = 11 ∧ day = 29) ∧
      (5 * days + 2) / 153 = month := by
  have hcases : month = 0 ∨ month = 1 ∨ month = 2 ∨ month = 3 ∨ month = 4 ∨ month = 5 ∨
      month = 6 ∨ month = 7 ∨ month = 8 ∨ month = 9 ∨ month = 10 ∨ month = 11 := by omega
  rcases hcases with
    rfl | rfl | rfl | rfl | rfl | rfl | rfl | rfl | rfl | rfl | rfl | rfl <;>
    refine ⟨?_, ?_, ?_⟩ <;> omega

/-! ## Dates -/

namespace Date

/-- What the calendar says of the days of a month. -/
structure InMonth (date : Date) : Prop where
  month : 1 ≤ date.month ∧ date.month ≤ 12
  day : 1 ≤ date.day ∧ date.day ≤ 31
  short : date.month = 4 ∨ date.month = 6 ∨ date.month = 9 ∨ date.month = 11 → date.day ≤ 30
  second : date.month = 2 → date.day ≤ 29 ∧ (date.day = 29 → isLeapYear date.year)

/-- A date of the calendar lies in its month. -/
theorem in_month_of_is_real {date : Date} (h : date.isReal) : date.InMonth := by
  simp only [isReal, Bool.and_eq_true, decide_eq_true_eq] at h
  obtain ⟨hone, hlast⟩ := h
  constructor <;> grind [daysInMonth]

/-- The year that began on the last first of March. -/
def yearFromMarch (date : Date) : Int :=
  if date.month ≤ 2 then date.year - 1 else date.year

/-- The number of months since the last March. -/
def monthFromMarch (date : Date) : Int :=
  if date.month ≤ 2 then date.month + 9 else (date.month : Int) - 3

/-- The number of days since the last first of March. -/
def dayOfYear (date : Date) : Int :=
  (153 * date.monthFromMarch + 2) / 5 + date.day - 1

/-- The number of days since the four hundred years of the date began. -/
def dayOfCycle (date : Date) : Int :=
  365 * (date.yearFromMarch % 400) + date.yearFromMarch % 400 / 4 -
    date.yearFromMarch % 400 / 100 + date.dayOfYear

theorem day_number_eq (date : Date) :
    date.dayNumber = date.yearFromMarch / 400 * daysPerCycle + date.dayOfCycle + cycleOrigin :=
  rfl

/-- The month and the day are found from the day of the year. -/
theorem month_of_day_of_year {date : Date} (h : date.isReal) :
    (0 ≤ date.dayOfYear ∧ date.dayOfYear ≤ 365) ∧
      (date.dayOfYear = 365 → date.month = 2 ∧ date.day = 29) ∧
      (5 * date.dayOfYear + 2) / 153 = date.monthFromMarch := by
  obtain ⟨hmonth, hday, hshort, hsecond⟩ := in_month_of_is_real h
  have hfromMarch : (date.month ≤ 2 ∧ date.monthFromMarch = date.month + 9) ∨
      (2 < date.month ∧ date.monthFromMarch = (date.month : Int) - 3) := by
    rw [monthFromMarch]
    split <;> omega
  obtain ⟨hdays, hleap, hfound⟩ : (0 ≤ date.dayOfYear ∧ date.dayOfYear ≤ 365) ∧
      (date.dayOfYear = 365 → date.monthFromMarch = 11 ∧ (date.day : Int) = 29) ∧
      (5 * date.dayOfYear + 2) / 153 = date.monthFromMarch :=
    month_of_days (by omega) (by omega) (by omega) (by omega) rfl
  exact ⟨hdays, by omega, hfound⟩

/-- The last day of the longest year is the leap day. -/
theorem is_leap_year_of_day_of_year {date : Date} (h : date.isReal) (hday : date.dayOfYear = 365) :
    isLeapYear (date.yearFromMarch % 400 + 1) := by
  obtain ⟨hmonth, hlast⟩ := (month_of_day_of_year h).2.1 hday
  have hleap := ((in_month_of_is_real h).second hmonth).2 hlast
  have hyear : date.yearFromMarch = date.year - 1 := by rw [yearFromMarch, if_pos (by omega)]
  simp only [isLeapYear, Bool.and_eq_true, Bool.or_eq_true, beq_iff_eq, bne_iff_ne] at hleap ⊢
  omega

/-- A date of the calendar is found again from its day number. -/
theorem of_day_number_day_number {date : Date} (h : date.isReal) :
    ofDayNumber date.dayNumber = date := by
  obtain ⟨hday, -, hfound⟩ := month_of_day_of_year h
  have hmonth := (in_month_of_is_real h).month
  obtain ⟨hcycle, hyear⟩ : (0 ≤ date.dayOfCycle ∧ date.dayOfCycle < daysPerCycle) ∧
      (date.dayOfCycle - date.dayOfCycle / 1460 + date.dayOfCycle / 36524 -
        date.dayOfCycle / 146096) / 365 = date.yearFromMarch % 400 :=
    year_of_day_of_cycle (by omega) hday (is_leap_year_of_day_of_year h) rfl
  have hnumber := day_number_eq date
  have hcycles : (date.dayNumber - cycleOrigin) / daysPerCycle = date.yearFromMarch / 400 := by
    rw [daysPerCycle] at *
    omega
  have hrest : (date.dayNumber - cycleOrigin) % daysPerCycle = date.dayOfCycle := by
    rw [daysPerCycle] at *
    omega
  have hdays : date.dayOfCycle - (365 * (date.yearFromMarch % 400) +
      date.yearFromMarch % 400 / 4 - date.yearFromMarch % 400 / 100) = date.dayOfYear := by
    rw [dayOfCycle]
    omega
  have hdayOfMonth :
      date.dayOfYear - (153 * date.monthFromMarch + 2) / 5 + 1 = date.day := by
    rw [dayOfYear]
    omega
  have hmonthOfYear : (if date.monthFromMarch < 10 then date.monthFromMarch + 3
      else date.monthFromMarch - 9) = date.month := by
    rw [monthFromMarch]
    split <;> split <;> omega
  have hyearOf : date.yearFromMarch % 400 + 400 * (date.yearFromMarch / 400) +
      (if (date.month : Int) ≤ 2 then 1 else 0) = date.year := by
    rw [yearFromMarch]
    split <;> split <;> omega
  simp only [ofDayNumber, hcycles, hrest, hyear, hdays, hfound, hdayOfMonth, hmonthOfYear, hyearOf,
    Int.toNat_natCast]

end Date

end TextTemplate.Time
