import Mathlib.Data.Int.Init
import Mathlib.Order.Basic
import Mathlib.Tactic.Ext

/-!
# The proleptic Gregorian calendar

Dates of every year, before and after the calendar was introduced, and the year before the year one
is the year zero. A date can only be built when its month has the day. The calendar orders its
dates by `next`, and a numbering that counts along `next` numbers the dates by all integers.
-/

namespace Calendar

/-- Every fourth year is a leap year, a century only when it can be divided by 400. -/
def leapYear (year : Int) : Prop := year % 4 = 0 ∧ (year % 100 ≠ 0 ∨ year % 400 = 0)

instance decidableLeapYear (year : Int) : Decidable (leapYear year) :=
  inferInstanceAs (Decidable (_ ∧ _))

/-- Days of a month. -/
def monthLength (year : Int) (month : Nat) : Nat :=
  if month = 2 then if leapYear year then 29 else 28
  else if month = 4 ∨ month = 6 ∨ month = 9 ∨ month = 11 then 30
  else 31

/-- Every month has a day. -/
theorem monthLength_pos (year : Int) (month : Nat) : 1 ≤ monthLength year month := by
  grind [monthLength]

/-- A date of the calendar. -/
@[ext] structure Date where
  /-- The year, which may be zero or negative. -/
  year : Int
  /-- The month, from one. -/
  month : Nat
  /-- The day of the month, from one. -/
  day : Nat
  /-- There are twelve months. -/
  isMonth : 1 ≤ month ∧ month ≤ 12
  /-- The month has the day. -/
  isDay : 1 ≤ day ∧ day ≤ monthLength year month
deriving DecidableEq

namespace Date

/-- Year, month and day. -/
def parts (date : Date) : Int × Nat × Nat := (date.year, date.month, date.day)

/-- The first day of a month. -/
def first (year : Int) (month : Nat) (isMonth : 1 ≤ month ∧ month ≤ 12) : Date :=
  ⟨year, month, 1, isMonth, by decide, monthLength_pos year month⟩

/-- The last day of a month. -/
def last (year : Int) (month : Nat) (isMonth : 1 ≤ month ∧ month ≤ 12) : Date :=
  ⟨year, month, monthLength year month, isMonth, monthLength_pos year month, Nat.le_refl _⟩

/-- The day after a date: the next of its month, the first of the next month, or New Year. -/
def next (date : Date) : Date :=
  if inMonth : date.day < monthLength date.year date.month then
    ⟨date.year, date.month, date.day + 1, date.isMonth, by omega, inMonth⟩
  else if inYear : date.month < 12 then first date.year (date.month + 1) (by omega)
  else first (date.year + 1) 1 (by decide)

/-- The day before a date. -/
def previous (date : Date) : Date :=
  if inMonth : 1 < date.day then
    ⟨date.year, date.month, date.day - 1, date.isMonth, by omega, by
      have isDay := date.isDay
      omega⟩
  else if inYear : 1 < date.month then
    last date.year (date.month - 1) (by
      have isMonth := date.isMonth
      omega)
  else last (date.year - 1) 12 (by decide)

/-- The day after the day before is the date. -/
theorem next_previous (date : Date) : date.previous.next = date := by
  obtain ⟨year, month, day, isMonth, isDay⟩ := date
  by_cases inMonth : 1 < day
  · have within : day - 1 < monthLength year month := by omega
    simp only [previous, inMonth, next, within, dif_pos]
    ext1
    · rfl
    · rfl
    · show day - 1 + 1 = day
      omega
  · by_cases inYear : 1 < month
    · have within : month - 1 < 12 := by omega
      simp only [previous, inMonth, inYear, next, last, Nat.lt_irrefl, within, dif_pos,
        dif_neg, not_false_eq_true]
      ext1
      · rfl
      · show month - 1 + 1 = month
        omega
      · show 1 = day
        omega
    · simp only [previous, inMonth, inYear, next, last, Nat.lt_irrefl, dif_neg,
        not_false_eq_true]
      ext1
      · show year - 1 + 1 = year
        omega
      · show 1 = month
        omega
      · show 1 = day
        omega

end Date

/-! ## Numbering the days -/

section Numbering

variable {number : Date → Int} (counts : ∀ date : Date, number date.next = number date + 1)
include counts

/-- A numbering counts back along `previous`. -/
theorem number_previous (date : Date) : number date.previous = number date - 1 := by
  have forward := counts date.previous
  rw [date.next_previous] at forward
  omega

/-- Every integer is the number of some date, when any date is given. -/
theorem exists_number (epoch : Date) (days : Int) : ∃ date, number date = days := by
  refine Int.inductionOn' days (number epoch) ?_ ?_ ?_
  · exact ⟨epoch, rfl⟩
  · rintro known _ ⟨date, numbered⟩
    exact ⟨date.next, by rw [counts, numbered]⟩
  · rintro known _ ⟨date, numbered⟩
    exact ⟨date.previous, by rw [number_previous counts, numbered]⟩

/-- A conversion that returns each date from its number returns a date for every integer, in the
order of the calendar. -/
theorem convert_of_numbered {convert : Int → Int × Nat × Nat}
    (returns : ∀ date : Date, convert (number date) = date.parts) (epoch : Date) (days : Int) :
    ∃ date : Date, convert days = date.parts ∧ convert (days + 1) = date.next.parts ∧
      number date = days := by
  obtain ⟨date, rfl⟩ := exists_number counts epoch days
  refine ⟨date, returns date, ?_, rfl⟩
  rw [← counts, returns]

end Numbering

end Calendar
