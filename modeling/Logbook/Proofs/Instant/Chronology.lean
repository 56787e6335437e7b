import Logbook.Instant

/-! Time goes by year, month, day, hour, minute and second, in this order of weight. -/

namespace Logbook.Instant

/-- The numbers of an instant, the weightiest first. -/
def components (t : Instant) : List Int :=
  [t.date.year, t.date.month, t.date.day, t.hour, t.minute, t.second]

/-- The order of the ranks is the order of time. A lighter number never outweighs a heavier one,
because it is less than what one more of the heavier is worth.
-/
theorem lt_iff_components {a b : Instant} : a < b ↔ a.components < b.components := by
  have := a.date.month_bounds
  have := a.date.day_bounds
  have := b.date.month_bounds
  have := b.date.day_bounds
  simp only [Ranked.lt_iff, Ranked.rank, rank, Date.rank, components, List.cons_lt_cons_iff,
    List.not_lt_nil, and_false, or_false]
  omega

end Logbook.Instant
