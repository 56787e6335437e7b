import Logbook.Calendar
import Logbook.Ranked

/-! Instants: a day of the calendar and a second of that day.
An instant is the part of a date-time down to whole seconds. Lines and queries spell nothing finer,
and the times of entries, conditions and windows are those that they spell. Every minute may have a
second 60, which comes after second 59 and before the next minute.
-/

namespace Logbook

/-- A second of a day of the calendar: a date-time without a fraction of a second. -/
structure Instant where
  date : Date
  hour : Fin 24
  minute : Fin 60
  second : Fin 61
deriving DecidableEq

namespace Instant

/-- A number that grows with time, and tells instants apart. -/
def rank (t : Instant) : Int := ((t.date.rank * 24 + t.hour) * 60 + t.minute) * 61 + t.second

@[ext]
theorem ext {a b : Instant} (date : a.date = b.date) (hour : a.hour = b.hour)
    (minute : a.minute = b.minute) (second : a.second = b.second)
    : a = b := by
  cases a
  cases b
  simp_all

theorem rank_inj {a b : Instant} : a.rank = b.rank ↔ a = b := by
  refine ⟨fun h => ?_, fun h => h ▸ rfl⟩
  unfold rank at h
  have date : a.date = b.date := Date.rank_inj.mp (by omega)
  rw [date] at h
  exact ext date (by omega) (by omega) (by omega)

/-- Instants are ordered by time. -/
instance : Ranked Instant := { rank, rank_inj := rank_inj.mp }

/-- The instant with the given numbers, if there is one. -/
def ofNumbers? (day month : Nat) (year : Int) (hour minute second : Nat) : Option Instant :=
  (Date.ofNumbers? day month year).bind fun date =>
    if h : hour < 24 ∧ minute < 60 ∧ second < 61 then
      some
        {
          date,
          hour := ⟨hour, h.1⟩,
          minute := ⟨minute, h.2.1⟩,
          second := ⟨second, h.2.2⟩,
        }
    else
      none

/-- The first second of the calendar. -/
def earliest : Instant :=
  {
    date := { year := firstYear, month := 1, day := 1, dayExists := by decide },
    hour := 0,
    minute := 0,
    second := 0,
  }

/-- The last second of the calendar, the sixtieth of its minute. It is the only instant that is not
before the end of the calendar, which is the last fraction of its last second 59.
-/
def latest : Instant :=
  {
    date := { year := lastYear, month := 12, day := 31, dayExists := by decide },
    hour := 23,
    minute := 59,
    second := 60,
  }

end Instant

end Logbook
