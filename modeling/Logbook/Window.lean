import Logbook.Instant

/-! Time windows, open at both ends.
A missing bound stands for the first or the last second of the calendar, which is then itself
outside. The end of the calendar, a fraction before that last second, would leave out the same
instants, as they are whole seconds.
-/

namespace Logbook

/-- The instants after one bound and before another. -/
structure Window where
  after : Option Instant := none
  before : Option Instant := none
deriving DecidableEq

namespace Window

/-- The window without bounds. -/
def unbounded : Window := {}

/-- The window between two instants. -/
def between (after before : Instant) : Window := { after := some after, before := some before }

/-- The instant from which the window opens. -/
def lower (w : Window) : Instant := w.after.getD Instant.earliest

/-- The instant at which the window has closed. -/
def upper (w : Window) : Instant := w.before.getD Instant.latest

/-- An entry of this time lies in the window; an entry without a time lies in none. -/
def contains (w : Window) (time : Option Instant) : Bool :=
  match time with
  | none => false
  | some t => w.lower < t && t < w.upper

end Window

end Logbook
