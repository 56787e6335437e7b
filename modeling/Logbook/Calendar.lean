/-! The days of the Gregorian calendar, continued backwards and forwards without a break.
Years are counted astronomically, so there is a year zero and it is a leap year.
-/

namespace Logbook

/-- A leap year is divisible by four and, if by a hundred, then also by four hundred. -/
def isLeapYear (year : Int) : Bool := year % 4 == 0 && (year % 100 != 0 || year % 400 == 0)

/-- How many days a month has; what is no month has none. -/
def daysInMonth (year : Int) (month : Nat) : Nat :=
  match month with
  | 1 | 3 | 5 | 7 | 8 | 10 | 12 => 31
  | 4 | 6 | 9 | 11 => 30
  | 2 => if isLeapYear year then 29 else 28
  | _ => 0

/-- The first year that has dates. -/
def firstYear : Int := -262143

/-- The last year that has dates. -/
def lastYear : Int := 262142

/-- The day exists in the calendar. -/
def DayExists (year : Int) (month day : Nat) : Prop :=
  firstYear ≤ year ∧ year ≤ lastYear ∧ 1 ≤ day ∧ day ≤ daysInMonth year month

instance (year : Int) (month day : Nat) : Decidable (DayExists year month day) :=
  inferInstanceAs (Decidable (_ ∧ _))

/-- A day of the calendar. -/
structure Date where
  year : Int
  month : Nat
  day : Nat
  dayExists : DayExists year month day
deriving DecidableEq

/-- The day with the given numbers, if the calendar has it. -/
def Date.ofNumbers? (day month : Nat) (year : Int) : Option Date :=
  if h : DayExists year month day then
    some { year, month, day, dayExists := h }
  else
    none

/-- A number that grows with the date; months count thirty-one places each. -/
def Date.rank (date : Date) : Int := (date.year * 12 + date.month) * 31 + date.day

theorem month_of_daysInMonth_pos {year : Int} {month : Nat} (h : 0 < daysInMonth year month)
    : 1 ≤ month ∧ month ≤ 12 := by
  unfold daysInMonth at h
  split at h <;> simp at h ⊢

theorem daysInMonth_le (year : Int) (month : Nat) : daysInMonth year month ≤ 31 := by
  unfold daysInMonth
  split <;> (try split) <;> decide

namespace Date

theorem month_bounds (date : Date) : 1 ≤ date.month ∧ date.month ≤ 12 := by
  obtain ⟨_, _, first, last⟩ := date.dayExists
  exact month_of_daysInMonth_pos (Nat.lt_of_lt_of_le first last)

theorem day_bounds (date : Date) : 1 ≤ date.day ∧ date.day ≤ 31 := by
  obtain ⟨_, _, first, last⟩ := date.dayExists
  exact ⟨first, Nat.le_trans last (daysInMonth_le _ _)⟩

@[ext]
theorem ext {a b : Date} (year : a.year = b.year) (month : a.month = b.month)
    (day : a.day = b.day)
    : a = b := by
  cases a
  cases b
  simp_all

/-- The rank tells dates apart. -/
theorem rank_inj {a b : Date} : a.rank = b.rank ↔ a = b := by
  refine ⟨fun h => ?_, fun h => h ▸ rfl⟩
  have := a.month_bounds
  have := a.day_bounds
  have := b.month_bounds
  have := b.day_bounds
  unfold rank at h
  apply ext <;> omega

end Date

end Logbook
