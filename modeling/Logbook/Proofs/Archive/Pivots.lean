import Logbook.Catalog
import Logbook.Proofs.Archive.Selection

/-! A window is cut at an instant inside it into what is earlier, the instant, and what is later.
Windows are open at both ends, so that the entries of the instant itself are on neither side and
have to be asked for by their exact time.
-/

namespace Logbook

-----------------------------------------------------------------------------------------
-- The two sides of an instant
-----------------------------------------------------------------------------------------

theorem Instant.lt_trichotomy (a b : Instant) : a < b ∨ a = b ∨ b < a := by
  rcases Int.lt_trichotomy a.rank b.rank with below | same | above
  · exact .inl below
  · exact .inr (.inl (rank_inj.mp same))
  · exact .inr (.inr above)

namespace Window

variable {window : Window} {pivot : Instant}

/-- The window up to an instant. -/
def earlierThan (window : Window) (t : Instant) : Window := { window with before := some t }

/-- The window from an instant on. -/
def laterThan (window : Window) (t : Instant) : Window := { window with after := some t }

theorem contains_iff_between {t : Instant}
    : window.contains (some t) = true ↔ window.lower < t ∧ t < window.upper := by
  simp [contains]

/-- What is earlier than an instant inside is inside as far as the lower bound is concerned. -/
theorem contains_earlierThan (inside : window.contains (some pivot) = true) {t : Instant}
    : (window.earlierThan pivot).contains (some t) = true
      ↔ window.contains (some t) = true ∧ t < pivot := by
  have below := (contains_iff_between.mp inside).2
  simp only [contains_iff_between]
  exact ⟨fun h => ⟨⟨h.1, Std.lt_trans h.2 below⟩, h.2⟩, fun h => ⟨h.1.1, h.2⟩⟩

theorem contains_laterThan (inside : window.contains (some pivot) = true) {t : Instant}
    : (window.laterThan pivot).contains (some t) = true
      ↔ window.contains (some t) = true ∧ pivot < t := by
  have above := (contains_iff_between.mp inside).1
  simp only [contains_iff_between]
  exact ⟨fun h => ⟨⟨Std.lt_trans above h.1, h.2⟩, h.1⟩, fun h => ⟨h.2, h.1.2⟩⟩

/-- No time lies both in a window that has closed when another opens and in the other. -/
theorem not_contains_both {earlier later : Window} (apart : earlier.upper = later.lower)
    {time : Option Instant} (early : earlier.contains time = true)
    : later.contains time = false := by
  cases time with
  | none => rfl
  | some t =>
      have below := (contains_iff_between.mp early).2
      refine Bool.eq_false_iff.mpr fun late => ?_
      have above := (contains_iff_between.mp late).1
      exact Std.lt_irrefl (Std.lt_trans below (apart ▸ above))

end Window

-----------------------------------------------------------------------------------------
-- Criteria on either side
-----------------------------------------------------------------------------------------

namespace Criteria

variable {window : Window} {pivot : Instant} (criteria : Criteria)

/-- The criteria without those on the time. -/
def timeless : Criteria := { criteria with time := none, window := none }

/-- The criteria, with times inside a window. -/
def within (window : Window) : Criteria := { criteria with time := none, window := some window }

/-- The criteria, with exactly this time. -/
def exactly (t : Instant) : Criteria := { criteria with time := some t, window := none }

/-- The criteria on one side of an instant, at the instant, and on its other side. -/
def cut (window : Window) (pivot : Instant) : List Criteria :=
  [
    criteria.within (window.earlierThan pivot),
    criteria.exactly pivot,
    criteria.within (window.laterThan pivot)
  ]

theorem admits_within (entry : Entry)
    : (criteria.within window).admits entry
      = (criteria.timeless.admits entry && window.contains entry.time) := by
  simp [within, timeless, admits, Entry.isWithin]

theorem admits_exactly (entry : Entry)
    : (criteria.exactly pivot).admits entry
      = (criteria.timeless.admits entry && entry.time == some pivot) := by
  simp [exactly, timeless, admits, Entry.isAt]

/-- An entry that is admitted within a window is admitted by one of the three parts that an instant
inside cuts, and by one only. What no part of the window is about, no part admits.
-/
theorem countP_cut (inside : window.contains (some pivot) = true) (entry : Entry)
    : ((criteria.cut window pivot).countP fun part => part.admits entry)
      = if (criteria.within window).admits entry then 1 else 0 := by
  simp only [cut, List.countP_cons, List.countP_nil, admits_within, admits_exactly]
  cases criteria.timeless.admits entry with
  | false => rfl
  | true =>
      cases entry.time with
      | none => rfl
      | some t =>
          have early := Window.contains_earlierThan inside (t := t)
          have late := Window.contains_laterThan inside (t := t)
          -- At the instant itself neither side has the entry, but the window has, being around it.
          rcases t.lt_trichotomy pivot with below | rfl | above
          · simp [early, late, below, Std.not_gt_of_lt below, Std.ne_of_lt below]
          · simp [early, late, inside, Std.lt_irrefl]
          · simp [early, late, above, Std.not_gt_of_lt above, (Std.ne_of_lt above).symm]

end Criteria

-----------------------------------------------------------------------------------------
-- Archives asked on either side
-----------------------------------------------------------------------------------------

namespace Archive

variable {window : Window} {pivot : Instant} (archive : Archive)

/-- Entries are selected as often as they are stored. -/
theorem count_select (criteria : Criteria) (entry : Entry)
    : (archive.select criteria).count entry
      = if criteria.admits entry then archive.entries.count entry else 0 := by
  split
  · next admitted => exact List.count_filter admitted
  · next other => exact List.count_eq_zero.mpr fun member => other (mem_select.mp member).2

/-- What is selected in a window is selected, once each, in the three parts of it. -/
theorem select_perm_cut (inside : window.contains (some pivot) = true) (criteria : Criteria)
    : (archive.select (criteria.within window)).Perm
        ((criteria.cut window pivot).flatMap archive.select) := by
  refine List.perm_iff_count.mpr fun entry => ?_
  have once := criteria.countP_cut inside entry
  simp only [Criteria.cut, List.countP_cons, List.countP_nil] at once
  simp only [Criteria.cut, List.flatMap_cons, List.flatMap_nil, List.append_nil, List.count_append,
    count_select]
  grind

theorem count_within_eq (inside : window.contains (some pivot) = true) (criteria : Criteria)
    : archive.count (criteria.within window)
      = archive.count (criteria.within (window.earlierThan pivot))
        + archive.count (criteria.exactly pivot)
        + archive.count (criteria.within (window.laterThan pivot)) := by
  have parts := (archive.select_perm_cut inside criteria).length_eq
  simpa [Criteria.cut, count, Nat.add_assoc] using parts

/-- The three parts of a window admit together what the window admits. -/
theorem covers_cut (inside : window.contains (some pivot) = true) (criteria : Criteria)
    (entry : Entry)
    : (criteria.within window).admits entry = true
      ↔ ∃ part ∈ criteria.cut window pivot, part.admits entry = true := by
  rw [← List.countP_pos_iff, criteria.countP_cut inside]
  split <;> simp_all

theorem valuesOf_cut_eq {α : Type} [LE α] [DecidableLE α] [DecidableEq α] [LT α]
    [Std.IsLinearOrder α] [Std.LawfulOrderLT α] (inside : window.contains (some pivot) = true)
    (criteria : Criteria) (value : Entry → α)
    : archive.valuesOf (criteria.within window) value
      = distinct
          ((criteria.cut window pivot).flatMap fun part => archive.valuesOf part value) :=
  valuesOf_eq_of_covers (fun entry _ => covers_cut inside criteria entry) value

theorem timesOf_cut_eq (inside : window.contains (some pivot) = true) (criteria : Criteria)
    : archive.timesOf (criteria.within window)
      = distinct ((criteria.cut window pivot).flatMap archive.timesOf) :=
  timesOf_eq_of_covers fun entry _ => covers_cut inside criteria entry

/-- A window is cut at an instant without loss and without overlap. An entry that meets criteria
within the window meets them in exactly one of the parts, and any other entry in none; what is
selected, counted and found in the window is therefore that of the parts put together.
-/
structure CutAt (archive : Archive) (window : Window) (pivot : Instant) : Prop where
  admits (criteria : Criteria) (entry : Entry)
    : ([
          criteria.within (window.earlierThan pivot),
          criteria.exactly pivot,
          criteria.within (window.laterThan pivot)
        ].countP fun part => part.admits entry)
      = if (criteria.within window).admits entry then 1 else 0
  select (criteria : Criteria)
    : (archive.select (criteria.within window)).Perm
        (archive.select (criteria.within (window.earlierThan pivot))
          ++ (archive.select (criteria.exactly pivot)
            ++ archive.select (criteria.within (window.laterThan pivot))))
  solveCount (task : TaskId)
    : archive.solveCount task window
      = archive.solveCount task (window.earlierThan pivot)
        + archive.count { event := some .solveTask, task := some task, time := some pivot }
        + archive.solveCount task (window.laterThan pivot)
  doneCount (task : TaskId)
    : archive.doneCount task window
      = archive.doneCount task (window.earlierThan pivot)
        + archive.count { event := some .doneTask, task := some task, time := some pivot }
        + archive.doneCount task (window.laterThan pivot)
  values {α : Type} [LE α] [DecidableLE α] [DecidableEq α] [LT α] [Std.IsLinearOrder α]
    [Std.LawfulOrderLT α] (criteria : Criteria) (value : Entry → α)
    : archive.valuesOf (criteria.within window) value
      = distinct
          (archive.valuesOf (criteria.within (window.earlierThan pivot)) value
            ++ (archive.valuesOf (criteria.exactly pivot) value
              ++ archive.valuesOf (criteria.within (window.laterThan pivot)) value))
  times (criteria : Criteria)
    : archive.timesOf (criteria.within window)
      = distinct
          (archive.timesOf (criteria.within (window.earlierThan pivot))
            ++ (archive.timesOf (criteria.exactly pivot)
              ++ archive.timesOf (criteria.within (window.laterThan pivot))))

/-- Every window can be cut at every instant inside it. Windows of which one closes when the other
opens have no entry in common, whatever else is asked of the entry in each.
-/
theorem cutAt (archive : Archive) (pivot : Instant)
    : (∀ window : Window, window.contains (some pivot) = true → archive.CutAt window pivot)
      ∧ ∀ (earlier later : Window) (criteria others : Criteria) (entry : Entry),
          earlier.upper = pivot
          → later.lower = pivot
          → criteria.window = some earlier
          → others.window = some later
          → ¬(criteria.admits entry = true ∧ others.admits entry = true) := by
  refine ⟨fun window inside => ?_, ?_⟩
  · exact
      {
        admits := fun criteria entry => criteria.countP_cut inside entry,
        select := fun criteria => by
          simpa [Criteria.cut] using archive.select_perm_cut inside criteria,
        solveCount := fun task =>
          archive.count_within_eq inside { event := some .solveTask, task := some task },
        doneCount := fun task =>
          archive.count_within_eq inside { event := some .doneTask, task := some task },
        values := fun criteria value => by
          simpa [Criteria.cut] using archive.valuesOf_cut_eq inside criteria value,
        times := fun criteria => by
          simpa [Criteria.cut] using archive.timesOf_cut_eq inside criteria,
      }
  · rintro earlier later criteria others entry closes opens early late ⟨admitted, both⟩
    have within := Criteria.contains_of_admits early admitted
    have beyond := Criteria.contains_of_admits late both
    rw [Window.not_contains_both (closes.trans opens.symm) within] at beyond
    cases beyond

/-- Attempts around a second that only some minutes have, one of them without a time, in a window
without a lower bound. One attempt lies on either side of that second and two in it.
-/
theorem cutAt_leap_second
    : let archive :=
        ofLines
          [
            "1\tA\t30.6.2015 23:59:60\tSOLVE_TASK 7\tOK",
            "1\tB\t1.7.2015 0:0:0\tSOLVE_TASK 7\tOK",
            "1\tC\tno date\tSOLVE_TASK 7\tOK",
            "1\tD\t30.6.2015 23:59:59\tSOLVE_TASK 7\tFAILED",
            "1\tE\t30.6.2015 23:59:60\tSOLVE_TASK 7\tOK"
          ]
      let date : Date := { year := 2015, month := 6, day := 30, dayExists := by decide }
      let pivot : Instant := { date, hour := 23, minute := 59, second := 60 }
      let window : Window := { before := some .latest }
      window.contains (some pivot) = true
      ∧ (archive.solveCount 7 window = 4
        ∧ archive.solveCount 7 (window.earlierThan pivot) = 1
        ∧ archive.solveCount 7 (window.laterThan pivot) = 1)
      ∧ archive.count { event := some .solveTask, task := some 7, time := some pivot } = 2
      ∧ ∀ entry,
          ¬(Criteria.admits { window := some (window.earlierThan pivot) } entry = true
            ∧ Criteria.admits { window := some (window.laterThan pivot) } entry = true) := by
  intro archive date pivot window
  have inside : window.contains (some pivot) = true := by decide +kernel
  have counts
      : archive.solveCount 7 window = 4
        ∧ archive.solveCount 7 (window.earlierThan pivot) = 1
        ∧ archive.solveCount 7 (window.laterThan pivot) = 1 := by
    decide +kernel
  obtain ⟨cuts, apart⟩ := archive.cutAt pivot
  refine ⟨inside, counts, ?_, fun entry => ?_⟩
  · have sum := (cuts window inside).solveCount 7
    omega
  · exact apart (window.earlierThan pivot) (window.laterThan pivot) _ _ entry rfl rfl rfl rfl

end Archive

end Logbook
