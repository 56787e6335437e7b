import Logbook.Instant
import Mathlib.Tactic.IntervalCases

/-! The numbers of instants, told by the rules of the calendar.
Six numbers that follow the rules belong to exactly one instant, and other numbers to none.
-/

namespace Logbook

/-- Every fourth year is a leap year, except the full centuries that are no fourth ones. -/
def LeapYear (year : Int) : Prop := 4 ∣ year ∧ (100 ∣ year → 400 ∣ year)

theorem isLeapYear_iff {year : Int} : isLeapYear year = true ↔ LeapYear year := by
  unfold isLeapYear LeapYear
  simp only [Bool.and_eq_true, Bool.or_eq_true, beq_iff_eq, bne_iff_ne]
  omega

/-- How long a month is, told by the rule instead of month by month. -/
theorem le_daysInMonth_iff {year : Int} {month day : Nat} (low : 1 ≤ month) (high : month ≤ 12)
    : day ≤ daysInMonth year month
      ↔ day ≤ 31 ∧ (month ∈ [4, 6, 9, 11] → day ≤ 30)
        ∧ (month = 2 → day ≤ 29 ∧ (¬LeapYear year → day ≤ 28)) := by
  have february : day ≤ (if isLeapYear year = true then 29 else 28)
      ↔ day ≤ 29 ∧ (¬LeapYear year → day ≤ 28) := by
    by_cases leap : LeapYear year
    · rw [if_pos (isLeapYear_iff.mpr leap)]
      exact ⟨fun fits => ⟨fits, fun common => absurd leap common⟩, fun fits => fits.1⟩
    · rw [if_neg fun h => leap (isLeapYear_iff.mp h)]
      exact ⟨fun fits => ⟨by omega, fun _ => fits⟩, fun fits => fits.2 leap⟩
  unfold daysInMonth
  interval_cases month <;> simp [february] <;> omega

namespace Instant

/-- Six numbers as a time is written with them. -/
structure Numbers where
  day : Nat
  month : Nat
  year : Int
  hour : Nat
  minute : Nat
  second : Nat
deriving DecidableEq, Repr

/-- The numbers of an instant. -/
def numbers (t : Instant) : Numbers :=
  {
    day := t.date.day,
    month := t.date.month,
    year := t.date.year,
    hour := t.hour,
    minute := t.minute,
    second := t.second,
  }

namespace Numbers

/-- The numbers follow the rules of the calendar and the clock. Any minute may have a second 60. -/
structure Exist (numbers : Numbers) : Prop where
  year : -262143 ≤ numbers.year ∧ numbers.year ≤ 262142
  month : 1 ≤ numbers.month ∧ numbers.month ≤ 12
  day : 1 ≤ numbers.day ∧ numbers.day ≤ 31
  thirtyDays : numbers.month ∈ [4, 6, 9, 11] → numbers.day ≤ 30
  february : numbers.month = 2 → numbers.day ≤ 29
  commonFebruary : numbers.month = 2 → ¬LeapYear numbers.year → numbers.day ≤ 28
  hour : numbers.hour ≤ 23
  minute : numbers.minute ≤ 59
  second : numbers.second ≤ 60

variable {numbers : Numbers}

/-- Numbers that follow the rules name a day of the calendar. -/
theorem Exist.dayExists (h : numbers.Exist)
    : DayExists numbers.year numbers.month numbers.day := by
  obtain ⟨low, high⟩ := h.month
  refine ⟨h.year.1, h.year.2, h.day.1, (le_daysInMonth_iff low high).mpr ?_⟩
  exact ⟨h.day.2, h.thirtyDays, fun second => ⟨h.february second, h.commonFebruary second⟩⟩

/-- The instant with these numbers, if there is one. -/
def instant? (numbers : Numbers) : Option Instant :=
  ofNumbers? numbers.day numbers.month numbers.year numbers.hour numbers.minute numbers.second

/-- The numbers of an instant name that instant. -/
@[simp]
theorem ofNumbers?_self (t : Instant)
    : ofNumbers? t.date.day t.date.month t.date.year t.hour t.minute t.second = some t := by
  have date : Date.ofNumbers? t.date.day t.date.month t.date.year = some t.date :=
    dif_pos t.date.dayExists
  simp [ofNumbers?, date]

/-- Numbers belong to an instant exactly when they are its own. -/
theorem instant?_eq_some_iff {t : Instant} : numbers.instant? = some t ↔ t.numbers = numbers := by
  constructor
  · intro found
    obtain ⟨date, dated, timed⟩ := Option.bind_eq_some_iff.mp found
    unfold Date.ofNumbers? at dated
    split at dated
    · cases dated
      split at timed
      · cases timed
        rfl
      · cases timed
    · cases dated
  · rintro rfl
    exact ofNumbers?_self t

end Numbers

/-- An instant has numbers that follow the rules. -/
theorem exist_numbers (t : Instant) : t.numbers.Exist := by
  obtain ⟨first, last, one, fits⟩ := t.date.dayExists
  obtain ⟨low, high⟩ := t.date.month_bounds
  obtain ⟨most, thirtyDays, february⟩ := (le_daysInMonth_iff low high).mp fits
  exact {
    year := ⟨first, last⟩,
    month := ⟨low, high⟩,
    day := ⟨one, most⟩,
    thirtyDays,
    february := fun second => (february second).1,
    commonFebruary := fun second => (february second).2,
    hour := Nat.le_of_lt_succ t.hour.isLt,
    minute := Nat.le_of_lt_succ t.minute.isLt,
    second := Nat.le_of_lt_succ t.second.isLt,
  }

/-- Numbers that follow the rules are those of an instant. -/
theorem Numbers.Exist.exists_instant {numbers : Numbers} (h : numbers.Exist)
    : ∃ t : Instant, t.numbers = numbers :=
  ⟨
    {
      date := { dayExists := h.dayExists, .. },
      hour := ⟨numbers.hour, Nat.lt_succ_of_le h.hour⟩,
      minute := ⟨numbers.minute, Nat.lt_succ_of_le h.minute⟩,
      second := ⟨numbers.second, Nat.lt_succ_of_le h.second⟩,
    },
    rfl
  ⟩

/-- Numbers belong to no instant exactly when they break a rule. -/
theorem Numbers.instant?_eq_none_iff {numbers : Numbers}
    : numbers.instant? = none ↔ ¬numbers.Exist := by
  constructor
  · intro absent exist
    obtain ⟨t, same⟩ := exist.exists_instant
    rw [Numbers.instant?_eq_some_iff.mpr same] at absent
    cases absent
  · intro broken
    cases found : numbers.instant? with
    | none => rfl
    | some t => exact absurd (Numbers.instant?_eq_some_iff.mp found ▸ exist_numbers t) broken

end Instant

end Logbook
