import Logbook.Proofs.Archive.Pivots
import Logbook.Proofs.Archive.Views

/-! The first times that an archive gives are those of the earliest entries, in whatever order the
entries are stored. Entries without a time are in no window and give no first time. From a first
time on, an archive gives the next one.
-/

namespace Logbook

/-- The entry has a time before an instant. -/
def Entry.IsBefore (entry : Entry) (t : Instant) : Prop := ∃ s, entry.time = some s ∧ s < t

/-- The entry has a time after an instant. -/
def Entry.IsAfter (entry : Entry) (t : Instant) : Prop := ∃ s, entry.time = some s ∧ t < s

namespace Archive

variable {archive : Archive} {meant : Entry → Prop} {window : Window}

-----------------------------------------------------------------------------------------
-- The earliest of the entries that are meant
-----------------------------------------------------------------------------------------

/-- Of the entries that are meant, one in the window has this time, and none has an earlier one. -/
@[mk_iff]
structure IsFirst (archive : Archive) (window : Window) (meant : Entry → Prop) (t : Instant)
    : Prop where
  told : archive.Tells window fun entry => meant entry ∧ entry.time = some t
  not_earlier : ¬archive.Tells window fun entry => meant entry ∧ entry.IsBefore t

/-- The earliest time is the least of the times that are listed, where each is listed once. -/
theorem firstTime?_eq_min? (criteria : Criteria)
    : archive.firstTime? criteria = (archive.timesOf criteria).min? := by
  refine Option.ext fun t => ?_
  simp only [firstTime?, timesOf, List.min?_eq_some_iff, mem_distinct]

/-- The criteria admit, for every window, the entries in it that are meant. -/
def Means (criteria : Window → Criteria) (meant : Entry → Prop) : Prop :=
  ∀ window entry,
    (criteria window).admits entry = true ↔ meant entry ∧ window.contains entry.time = true

variable {criteria : Window → Criteria}

theorem mem_timesOf_of_means (means : Means criteria meant) {t : Instant}
    : t ∈ archive.timesOf (criteria window)
      ↔ archive.Tells window fun entry => meant entry ∧ entry.time = some t := by
  simp only [mem_timesOf, means window, Tells, and_assoc, and_left_comm]

theorem firstTime?_eq_some_iff (means : Means criteria meant) {t : Instant}
    : archive.firstTime? (criteria window) = some t ↔ archive.IsFirst window meant t := by
  rw [firstTime?_eq_min?, List.min?_eq_some_iff, mem_timesOf_of_means means]
  constructor
  · rintro ⟨told, least⟩
    refine { told, not_earlier := ?_ }
    rintro ⟨entry, stored, within, isMeant, s, time, below⟩
    have listed : s ∈ archive.timesOf (criteria window) :=
      (mem_timesOf_of_means means).mpr ⟨entry, stored, within, isMeant, time⟩
    exact Std.not_lt.mpr (least s listed) below
  · rintro ⟨told, not_earlier⟩
    refine ⟨told, fun s listed => Std.not_lt.mp fun below => not_earlier ?_⟩
    obtain ⟨entry, stored, within, isMeant, time⟩ := (mem_timesOf_of_means means).mp listed
    exact ⟨entry, stored, within, isMeant, s, time, below⟩

theorem firstTime?_eq_none_iff (means : Means criteria meant)
    : archive.firstTime? (criteria window) = none ↔ ¬archive.Tells window meant := by
  rw [firstTime?_eq_min?, List.min?_eq_none_iff, List.eq_nil_iff_forall_not_mem]
  simp only [mem_timesOf_of_means means]
  constructor
  · rintro absent ⟨entry, stored, within, isMeant⟩
    obtain ⟨t, time⟩ := Window.exists_of_contains within
    exact absent t ⟨entry, stored, within, isMeant, time⟩
  · rintro absent t ⟨entry, stored, within, isMeant, _⟩
    exact absent ⟨entry, stored, within, isMeant⟩

-----------------------------------------------------------------------------------------
-- The next time after the first
-----------------------------------------------------------------------------------------

/-- What is told from an instant inside a window on is told of the later entries of the window. -/
theorem tells_laterThan {t : Instant} (inside : window.contains (some t) = true)
    : archive.Tells (window.laterThan t) meant
      ↔ archive.Tells window fun entry => meant entry ∧ entry.IsAfter t := by
  refine exists_congr fun entry => and_congr_right fun _ => ?_
  cases time : entry.time with
  | none => simp [Window.contains]
  | some s =>
      rw [Window.contains_laterThan inside]
      simp [Entry.IsAfter, time, and_assoc, and_comm]

/-- The first time from an instant on is the next one in the window. -/
theorem isFirst_laterThan {t s : Instant} (inside : window.contains (some t) = true)
    : archive.IsFirst (window.laterThan t) meant s
      ↔ archive.IsFirst window (fun entry => meant entry ∧ entry.IsAfter t) s := by
  simp only [isFirst_iff, tells_laterThan inside, and_right_comm]

theorem IsFirst.inside {t : Instant} (first : archive.IsFirst window meant t)
    : window.contains (some t) = true := by
  obtain ⟨entry, _, within, _, time⟩ := first.told
  exact time ▸ within

-----------------------------------------------------------------------------------------
-- First times in the catalog
-----------------------------------------------------------------------------------------

/-- What is given in each window is the earliest time of the entries that are meant, which is the
least of the times listed, and nothing where there is no such entry. In the window from that time
on it is the next time, or nothing when all are the same.
-/
structure GivesFirst (archive : Archive) (meant : Entry → Prop) (times : Window → List Instant)
    (first? : Window → Option Instant)
    : Prop where
  eq_some_iff (window : Window) (t : Instant)
    : first? window = some t ↔ archive.IsFirst window meant t
  eq_none_iff (window : Window) : first? window = none ↔ ¬archive.Tells window meant
  eq_min? (window : Window) : first? window = (times window).min?
  later_eq_some_iff {window : Window} {t : Instant} (found : first? window = some t) (s : Instant)
    : first? (window.laterThan t) = some s
      ↔ archive.IsFirst window (fun entry => meant entry ∧ entry.IsAfter t) s
  later_eq_none_iff {window : Window} {t : Instant} (found : first? window = some t)
    : first? (window.laterThan t) = none
      ↔ ∀ entry ∈ archive.entries,
          window.contains entry.time = true → meant entry → entry.time = some t

/-- Nothing is later than the first time when all that is meant has that time. -/
theorem not_tells_isAfter_iff {t : Instant} (first : archive.IsFirst window meant t)
    : (¬archive.Tells window fun entry => meant entry ∧ entry.IsAfter t)
      ↔ ∀ entry ∈ archive.entries,
          window.contains entry.time = true → meant entry → entry.time = some t := by
  constructor
  · intro none_later entry stored within isMeant
    obtain ⟨s, time⟩ := Window.exists_of_contains within
    rcases s.lt_trichotomy t with below | rfl | above
    · exact (first.not_earlier ⟨entry, stored, within, isMeant, s, time, below⟩).elim
    · exact time
    · exact (none_later ⟨entry, stored, within, isMeant, s, time, above⟩).elim
  · rintro same ⟨entry, stored, within, isMeant, s, time, above⟩
    rw [same entry stored within isMeant, Option.some.injEq] at time
    exact Std.lt_irrefl (time ▸ above)

theorem givesFirst (archive : Archive) (means : Means criteria meant)
    : archive.GivesFirst meant (fun window => archive.timesOf (criteria window))
        fun window => archive.firstTime? (criteria window) where
  eq_some_iff _ _ := firstTime?_eq_some_iff means
  eq_none_iff _ := firstTime?_eq_none_iff means
  eq_min? _ := firstTime?_eq_min? _
  later_eq_some_iff found _ :=
    (firstTime?_eq_some_iff means).trans
      (isFirst_laterThan ((firstTime?_eq_some_iff means).mp found).inside)
  later_eq_none_iff found := by
    have first := (firstTime?_eq_some_iff means).mp found
    rw [firstTime?_eq_none_iff means, tells_laterThan first.inside, not_tells_isAfter_iff first]

/-- There is a first time of a user where the user is listed. -/
theorem isSome_firstTime?_iff (archive : Archive) {user : String} {about : Entry → Prop}
    {others : Window → Criteria}
    (means : Means criteria fun entry => entry.user = user ∧ about entry)
    (others_mean : Means others about) (window : Window)
    : (archive.firstTime? (criteria window)).isSome = true
      ↔ user ∈ archive.valuesOf (others window) Entry.user := by
  rw [Option.isSome_iff_ne_none, ne_eq, firstTime?_eq_none_iff means, Classical.not_not,
    mem_valuesOf]
  simp only [Tells, others_mean window]
  grind

/-- The first times that the catalog gives of a user: of logging in, and of attempting and of
completing each task.
-/
structure GivesFirstTimes (archive : Archive) (user : String) : Prop where
  login
    : archive.GivesFirst (fun entry => entry.user = user ∧ entry.event = .login)
        (archive.timesOfUserEvent user .login)
        (archive.firstLogin? user)
  solved (task : TaskId)
    : archive.GivesFirst
        (fun entry => entry.user = user ∧ entry.event = .solveTask ∧ entry.task? = some task)
        (fun window =>
          archive.timesOf
            {
              user := some user,
              event := some .solveTask,
              task := some task,
              window := some window,
            })
        (archive.firstSolved? user task)
  done (task : TaskId)
    : archive.GivesFirst
        (fun entry => entry.user = user ∧ entry.event = .doneTask ∧ entry.task? = some task)
        (fun window =>
          archive.timesOf
            {
              user := some user,
              event := some .doneTask,
              task := some task,
              window := some window,
            })
        (archive.firstDone? user task)
  solved_isSome_iff (task : TaskId) (window : Window)
    : (archive.firstSolved? user task window).isSome = true
      ↔ user ∈ archive.solversOf task window
  done_isSome_iff (task : TaskId) (window : Window)
    : (archive.firstDone? user task window).isSome = true
      ↔ user ∈ archive.doersOf task window

/-- The catalog gives the first times of every user, whatever the order of the entries. -/
theorem givesFirstTimes (archive : Archive) (user : String) : archive.GivesFirstTimes user := by
  have login
      : Means (fun window => { user := some user, event := some .login, window := some window })
          fun entry => entry.user = user ∧ entry.event = .login := by
    simp [Means, Criteria.admits_iff, and_assoc]
  have about (event : Event) (task : TaskId)
      : Means (fun window => { event := some event, task := some task, window := some window })
          fun entry => entry.event = event ∧ entry.task? = some task := by
    simp [Means, Criteria.admits_iff, and_assoc]
  have of_user (event : Event) (task : TaskId)
      : Means
          (fun window =>
            {
              user := some user,
              event := some event,
              task := some task,
              window := some window,
            })
          fun entry => entry.user = user ∧ entry.event = event ∧ entry.task? = some task := by
    simp [Means, Criteria.admits_iff, and_assoc]
  have listed (event : Event) (task : TaskId) :=
    archive.isSome_firstTime?_iff (of_user event task) (about event task)
  exact
    {
      login := archive.givesFirst login,
      solved := fun task => archive.givesFirst (of_user .solveTask task),
      done := fun task => archive.givesFirst (of_user .doneTask task),
      solved_isSome_iff := listed .solveTask,
      done_isSome_iff := listed .doneTask,
    }

/-- Logins of a user out of order, two of them at the first time and one at no time. From the first
time on the archive gives the next, and nothing from then on.
-/
theorem givesFirstTimes_out_of_order
    : let archive :=
        ofLines
          [
            "1\tA\t5.5.2015 0:0:0\tLOGIN\tOK",
            "1\tA\tno date\tLOGIN\tOK",
            "2\tA\t1.1.2014 0:0:60\tLOGIN\tOK",
            "1\tB\t1.1.2013 0:0:0\tLOGIN\tOK",
            "1\tA\t1.1.2014 0:0:60\tLOGIN\tERROR"
          ]
      let date : Date := { year := 2014, month := 1, day := 1, dayExists := by decide }
      let first : Instant := { date, hour := 0, minute := 0, second := 60 }
      let date : Date := { year := 2015, month := 5, day := 5, dayExists := by decide }
      let next : Instant := { date, hour := 0, minute := 0, second := 0 }
      let logins (entry : Entry) : Prop := entry.user = "A" ∧ entry.event = .login
      let rest := Window.laterThan .unbounded first
      (archive.firstLogin? "A" .unbounded = some first
        ∧ archive.firstLogin? "A" rest = some next)
      ∧ archive.IsFirst .unbounded (fun entry => logins entry ∧ entry.IsAfter first) next
      ∧ archive.firstLogin? "A" (rest.laterThan next) = none := by
  intro archive _ first _ next logins rest
  have found : archive.firstLogin? "A" .unbounded = some first := by decide +kernel
  have follows : archive.firstLogin? "A" rest = some next := by decide +kernel
  have given := (archive.givesFirstTimes "A").login
  refine ⟨⟨found, follows⟩, (given.later_eq_some_iff found next).mp follows, ?_⟩
  refine (given.later_eq_none_iff follows).mpr ?_
  decide +kernel

end Archive

end Logbook
