import TextTemplate.Proofs.Time.Calendar

/-!
# Counting days

The day number of a date is what counting gives: the days of the years and of the months that have
passed, and the days of the month, less the days before 1970 (`Date.day_number_eq_count`). The count
goes year by year and month by month from the beginning of the year zero, and knows of leap years
only by what the calendar says of each year.
-/

namespace TextTemplate.Time

/-- The number of days of a year. -/
def daysInYear (year : Int) : Nat :=
  if isLeapYear year then 366 else 365

/-- The number of days from the beginning of the year zero to the beginning of the year. -/
def daysBeforeYear : Nat → Nat
  | 0 => 0
  | year + 1 => daysBeforeYear year + daysInYear year

/-- The number of days of the year that come before the month. -/
def daysBeforeMonth (year : Int) : Nat → Nat
  | 0 => 0
  | month + 1 => daysBeforeMonth year month + daysInMonth year month

/-- The number of days from the first of January 1970 to the date, by counting. -/
def countDays (year month day : Nat) : Int :=
  (daysBeforeYear year + daysBeforeMonth year month + day : Nat) - (daysBeforeYear 1970 + 1 : Nat)

/-- Every fourth year has a leap day, unless it is the last of a century that is none of four. -/
theorem days_before_year_eq (year : Nat) :
    daysBeforeYear year = 365 * year + (year + 3) / 4 + (year + 399) / 400 - (year + 99) / 100 := by
  induction year with
  | zero => rfl
  | succ year ih =>
      rw [daysBeforeYear, ih, daysInYear]
      split
      · next h =>
          simp only [isLeapYear, Bool.and_eq_true, Bool.or_eq_true, beq_iff_eq, bne_iff_ne] at h
          omega
      · next h =>
          simp only [isLeapYear, Bool.and_eq_true, Bool.or_eq_true, beq_iff_eq, bne_iff_ne] at h
          omega

/-- January and February come first; from March on, the months take turns in a way that no leap day
disturbs. -/
theorem days_before_month_eq (year : Int) {month : Nat} (h : 1 ≤ month ∧ month ≤ 12) :
    daysBeforeMonth year month =
      if month ≤ 2 then 31 * (month - 1)
      else (153 * (month - 3) + 2) / 5 + (daysInYear year - 306) := by
  have hcases : month = 1 ∨ month = 2 ∨ month = 3 ∨ month = 4 ∨ month = 5 ∨ month = 6 ∨
      month = 7 ∨ month = 8 ∨ month = 9 ∨ month = 10 ∨ month = 11 ∨ month = 12 := by omega
  rcases hcases with
    rfl | rfl | rfl | rfl | rfl | rfl | rfl | rfl | rfl | rfl | rfl | rfl <;>
    cases hleap : isLeapYear year <;> simp [daysBeforeMonth, daysInMonth, daysInYear, hleap]

/-- The day number of a date of the calendar is the number of days counted to it. -/
theorem Date.day_number_eq_count {year month day : Nat} (h : Date.isReal ⟨year, month, day⟩) :
    Date.dayNumber ⟨year, month, day⟩ = countDays year month day := by
  obtain ⟨hmonth, hday, -, -⟩ := in_month_of_is_real h
  have hepoch : daysBeforeYear 1970 = 719528 := days_before_year_eq 1970
  have hyears := days_before_year_eq year
  have hmonths := days_before_month_eq year hmonth
  simp only [dayNumber, daysPerCycle, cycleOrigin, countDays, hepoch, hmonths, hyears]
  simp only at hmonth hday
  split
  · omega
  · rw [daysInYear]
    split
    · next hmarch hleap =>
        simp only [isLeapYear, Bool.and_eq_true, Bool.or_eq_true, beq_iff_eq, bne_iff_ne] at hleap
        omega
    · next hmarch hleap =>
        simp only [isLeapYear, Bool.and_eq_true, Bool.or_eq_true, beq_iff_eq, bne_iff_ne] at hleap
        omega

end TextTemplate.Time
