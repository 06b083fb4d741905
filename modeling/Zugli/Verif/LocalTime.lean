import Zugli.Lib.Calendar
import Zugli.Firmware.LocalTime

/-!
# The calendar of the clock

Dates and counts of days since the Unix epoch convert into one another by the proleptic Gregorian
calendar, for every integer and every date.
-/

namespace Zugli

open Calendar

/-! ## The year that begins in March -/

/-- The year of an era is found again from the day of the era. The last day of a year of 366 days
exists in leap years only. -/
theorem yearOfEra_of_dayOfEra {year day : Int} (inEra : 0 ≤ year ∧ year < 400)
    (inYear : 0 ≤ day ∧ day ≤ 365) (leap : day = 365 → leapYear (year + 1)) :
    let dayOfEra := year * 365 + year / 4 - year / 100 + day
    0 ≤ dayOfEra ∧ dayOfEra < 146097 ∧
      (dayOfEra - dayOfEra / 1460 + dayOfEra / 36524 - dayOfEra / 146096) / 365 = year := by
  -- Centuries of the era, fourth years of the century, and years after the fourth one.
  obtain ⟨century, fourth, rest, rfl, ofCentury, ofFourth, ofRest⟩ :
      ∃ century fourth rest : Int, year = 100 * century + 4 * fourth + rest ∧
        (0 ≤ century ∧ century ≤ 3) ∧ (0 ≤ fourth ∧ fourth ≤ 24) ∧ (0 ≤ rest ∧ rest ≤ 3) :=
    ⟨year / 100, year % 100 / 4, year % 4, by omega, by omega, by omega, by omega⟩
  have fours : (100 * century + 4 * fourth + rest) / 4 = 25 * century + fourth := by omega
  have hundreds : (100 * century + 4 * fourth + rest) / 100 = century := by omega
  -- The day 365 ends a fourth year, and a century only at the end of the era.
  have leapFourth : day = 365 → rest = 3 ∧ (fourth = 24 → century = 3) := by
    intro lastDay
    have leapYear := leap lastDay
    unfold Calendar.leapYear at leapYear
    omega
  intro dayOfEra
  have total : dayOfEra = 36524 * century + 1461 * fourth + 365 * rest + day := by
    simp only [dayOfEra, fours, hundreds]
    omega
  clear_value dayOfEra
  have ends : dayOfEra / 146096 = if dayOfEra = 146096 then 1 else 0 := by
    split <;> omega
  have centuries : dayOfEra / 36524 = century + if dayOfEra = 146096 then 1 else 0 := by
    split <;> omega
  have quarters : dayOfEra / 1460 = 25 * century + fourth +
      if 1460 ≤ 24 * century + fourth + 365 * rest + day then 1 else 0 := by
    split <;> omega
  refine ⟨by omega, by omega, ?_⟩
  rw [ends, centuries, quarters]
  split <;> omega

/-- The year, from March, of a date. -/
def marchYear (date : Date) : Int := if date.month ≤ 2 then date.year - 1 else date.year

/-- The month of a date, from March as zero. -/
def marchMonth (date : Date) : Int :=
  let month : Int := date.month
  if 2 < month then month - 3 else month + 9

/-- The day, from zero, of a date in its year from March. -/
def marchDay (date : Date) : Int := (153 * marchMonth date + 2) / 5 + date.day - 1

/-- The month from March is found again from the day of the year. -/
theorem marchMonth_of_marchDay (date : Date) :
    (5 * marchDay date + 2) / 153 = marchMonth date := by
  obtain ⟨year, month, day, isMonth, isDay⟩ := date
  simp only [marchDay, marchMonth, monthLength] at isDay ⊢
  grind

/-- A year from March has 366 days when it ends with a 29 February. -/
theorem marchDay_bounds (date : Date) :
    (0 ≤ marchDay date ∧ marchDay date ≤ 365) ∧
      (marchDay date = 365 → leapYear (marchYear date + 1)) := by
  obtain ⟨year, month, day, isMonth, isDay⟩ := date
  simp only [marchDay, marchMonth, marchYear, monthLength] at isDay ⊢
  grind

/-- The next day is the next of its year from March, or 1 March after the last. -/
theorem march_next (date : Date) :
    marchYear date.next = marchYear date ∧ marchDay date.next = marchDay date + 1 ∨
      marchYear date.next = marchYear date + 1 ∧ marchDay date.next = 0 ∧
        marchDay date = if leapYear (marchYear date + 1) then 365 else 364 := by
  obtain ⟨year, month, day, isMonth, isDay⟩ := date
  by_cases inMonth : day < monthLength year month
  · left
    simp only [Date.next, inMonth, dif_pos, marchDay, marchMonth, marchYear, true_and]
    push_cast
    omega
  · have last : day = monthLength year month := by omega
    by_cases inYear : month < 12
    · simp only [Date.next, inMonth, inYear, dif_neg, dif_pos, not_false_eq_true, Date.first,
        marchDay, marchMonth, marchYear]
      have cases : month = 1 ∨ month = 2 ∨ month = 3 ∨ month = 4 ∨ month = 5 ∨ month = 6 ∨
        month = 7 ∨ month = 8 ∨ month = 9 ∨ month = 10 ∨ month = 11 := by omega
      subst last
      rcases cases with rfl | rfl | rfl | rfl | rfl | rfl | rfl | rfl | rfl | rfl | rfl <;>
        simp [monthLength]
      split <;> simp
    · obtain rfl : month = 12 := by omega
      subst last
      simp [Date.next, Date.first, marchDay, marchMonth, marchYear, monthLength]

/-! ## The conversions -/

/-- Days since the Unix epoch of a date. -/
def dayNumber (date : Date) : Int := daysFromCivil date.year date.month date.day

/-- A month from March is one of twelve. -/
theorem marchMonth_bounds (date : Date) : 0 ≤ marchMonth date ∧ marchMonth date ≤ 11 := by
  have isMonth := date.isMonth
  simp only [marchMonth]
  omega

/-- The count of days adds the eras to the day of the era. -/
theorem dayNumber_era (date : Date) :
    dayNumber date = marchYear date / 400 * 146097 +
      (marchYear date % 400 * 365 + marchYear date % 400 / 4 - marchYear date % 400 / 100 +
        marchDay date) - 719468 := by
  have inEra : 0 ≤ marchYear date - marchYear date / 400 * 400 := by omega
  have months : 0 ≤ 153 * marchMonth date + 2 := by
    have bounds := marchMonth_bounds date
    omega
  show marchYear date / 400 * 146097 + ((marchYear date - marchYear date / 400 * 400) * 365 +
    (marchYear date - marchYear date / 400 * 400).tdiv 4 -
    (marchYear date - marchYear date / 400 * 400).tdiv 100 +
    ((153 * marchMonth date + 2).tdiv 5 + date.day - 1)) - 719468 = _
  rw [Int.tdiv_eq_ediv_of_nonneg inEra, Int.tdiv_eq_ediv_of_nonneg inEra,
    Int.tdiv_eq_ediv_of_nonneg months, marchDay, Int.emod_def]
  omega

/-- The count of days counts every year as 365 days, its leap days, and the days of the year. -/
theorem dayNumber_eq (date : Date) :
    dayNumber date = marchYear date * 365 + marchYear date / 4 - marchYear date / 100 +
      marchYear date / 400 + marchDay date - 719468 := by
  rw [dayNumber_era]
  omega

/-- The count of days counts along the calendar. -/
theorem dayNumber_next (date : Date) : dayNumber date.next = dayNumber date + 1 := by
  rw [dayNumber_eq, dayNumber_eq]
  rcases march_next date with ⟨sameYear, nextDay⟩ | ⟨nextYear, newYear, lastDay⟩
  · rw [sameYear, nextDay]
    omega
  · rw [nextYear, newYear, lastDay]
    by_cases leap : leapYear (marchYear date + 1)
    · rw [if_pos leap]
      unfold leapYear at leap
      omega
    · rw [if_neg leap]
      unfold leapYear at leap
      omega

/-- A date is found again from its count of days. -/
theorem civilFromDays_dayNumber (date : Date) : civilFromDays (dayNumber date) = date.parts := by
  obtain ⟨inYear, leap⟩ := marchDay_bounds date
  have leapEra : marchDay date = 365 → leapYear (marchYear date % 400 + 1) := by
    intro lastDay
    have leapYear := leap lastDay
    unfold Calendar.leapYear at leapYear ⊢
    omega
  have ofEra : 0 ≤ marchYear date % 400 ∧ marchYear date % 400 < 400 := by omega
  obtain ⟨nonneg, inEra, yearFound⟩ := yearOfEra_of_dayOfEra ofEra inYear leapEra
  have counted := dayNumber_era date
  generalize era : marchYear date % 400 * 365 + marchYear date % 400 / 4 -
    marchYear date % 400 / 100 + marchDay date = dayOfEra at nonneg inEra yearFound counted
  have shifted : (dayNumber date + 719468) / 146097 = marchYear date / 400 := by omega
  have rest : dayNumber date + 719468 - marchYear date / 400 * 146097 = dayOfEra := by omega
  have truncated : (dayOfEra - dayOfEra.tdiv 1460 + dayOfEra.tdiv 36524 -
      dayOfEra.tdiv 146096).tdiv 365 = marchYear date % 400 := by
    rw [Int.tdiv_eq_ediv_of_nonneg nonneg, Int.tdiv_eq_ediv_of_nonneg nonneg,
      Int.tdiv_eq_ediv_of_nonneg nonneg, Int.tdiv_eq_ediv_of_nonneg (by omega), yearFound]
  have yearDay : dayOfEra - (365 * (marchYear date % 400) + (marchYear date % 400).tdiv 4 -
      (marchYear date % 400).tdiv 100) = marchDay date := by
    rw [Int.tdiv_eq_ediv_of_nonneg (by omega), Int.tdiv_eq_ediv_of_nonneg (by omega)]
    omega
  have monthFound : (5 * marchDay date + 2).tdiv 153 = marchMonth date := by
    rw [Int.tdiv_eq_ediv_of_nonneg (by omega), marchMonth_of_marchDay]
  have months := marchMonth_bounds date
  simp only [civilFromDays, shifted, rest, truncated, yearDay, monthFound]
  rw [Int.tdiv_eq_ediv_of_nonneg (by omega)]
  have month : (if marchMonth date < 10 then marchMonth date + 3
      else marchMonth date - 9).toNat = date.month := by
    have isMonth := date.isMonth
    simp only [marchMonth]
    omega
  have day : (marchDay date - (153 * marchMonth date + 2) / 5 + 1).toNat = date.day := by
    rw [marchDay]
    omega
  have year : marchYear date % 400 + marchYear date / 400 * 400 +
      (if date.month ≤ 2 then 1 else 0) = date.year := by
    rw [marchYear]
    omega
  rw [month, day, year, Date.parts]

/-! ## The calendar -/

/-- January is a month. -/
theorem january : 1 ≤ 1 ∧ 1 ≤ 12 := by decide

/-- The Unix epoch. -/
def epoch : Date := Date.first 1970 1 january

/-- Counts of days and dates convert into one another by the calendar: the count zero is the first
day of 1970, every count has a date, the next count the next date, and each conversion undoes the
other. -/
theorem civilFromDays_gregorian :
    civilFromDays 0 = (1970, 1, 1) ∧
      (∀ days, ∃ date : Date, civilFromDays days = date.parts ∧
        civilFromDays (days + 1) = date.next.parts ∧
        daysFromCivil date.year date.month date.day = days) ∧
      ∀ date : Date, civilFromDays (daysFromCivil date.year date.month date.day) = date.parts := by
  refine ⟨by decide, ?_, civilFromDays_dayNumber⟩
  exact convert_of_numbered dayNumber_next civilFromDays_dayNumber epoch

end Zugli
