import Mathlib.Data.Finset.Card
import Logbook.Proofs.Archive.Selection
import Logbook.Proofs.Archive.Tallies
import Logbook.Query.Answer

/-! Two archives put together answer every question by their two answers put together.
Sets are united, counts of entries and tallies add up, and of two first times the earlier is the
first. How many different values there are is no sum: it is the size of the united set.
-/

namespace Logbook

-----------------------------------------------------------------------------------------
-- Putting answers together
-----------------------------------------------------------------------------------------

/-- The list holds the values of two lists, each once and in ascending order. -/
structure Unites {α : Type} [LT α] (left right whole : List α) : Prop where
  mem_iff : ∀ value, value ∈ whole ↔ value ∈ left ∨ value ∈ right
  ascending : whole.Pairwise (· < ·)

/-- The answer unites two answers of its own kind. -/
inductive Answer.Unites : Answer → Answer → Answer → Prop
  | texts {left right whole} (united : Logbook.Unites left right whole)
    : Answer.Unites (.texts left) (.texts right) (.texts whole)
  | times {left right whole} (united : Logbook.Unites left right whole)
    : Answer.Unites (.times left) (.times right) (.times whole)
  | events {left right whole} (united : Logbook.Unites left right whole)
    : Answer.Unites (.events left) (.events right) (.events whole)
  | statuses {left right whole} (united : Logbook.Unites left right whole)
    : Answer.Unites (.statuses left) (.statuses right) (.statuses whole)

/-- The tally holds the tasks of two tallies in ascending order, each with both its numbers added.
-/
structure Tally.Adds (left right whole : Tally) : Prop where
  mem_tasks_iff : ∀ task, task ∈ whole.tasks ↔ task ∈ left.tasks ∨ task ∈ right.tasks
  count_eq : ∀ task, whole.count task = left.count task + right.count task
  ascending : whole.tasks.Pairwise (· < ·)

theorem Tally.adds_ofTasks (left right : List TaskId)
    : Adds (ofTasks left) (ofTasks right) (ofTasks (left ++ right)) := by
  have first := of_ofTasks left
  have second := of_ofTasks right
  have both := of_ofTasks (left ++ right)
  refine
    {
      mem_tasks_iff := fun task => ?_,
      count_eq := fun task => ?_,
      ascending := both.ascending,
    }
  · rw [both.mem_iff, first.mem_iff, second.mem_iff, List.mem_append]
  · rw [both.count_eq, first.count_eq, second.count_eq, List.count_append]

namespace Archive

/-- The entries of one archive and then those of another. -/
instance : Append Archive := ⟨fun a b => { entries := a.entries ++ b.entries }⟩

variable (a b : Archive) (criteria : Criteria)

@[simp]
theorem entries_append : (a ++ b).entries = a.entries ++ b.entries := rfl

theorem select_append
    : (a ++ b).select criteria = a.select criteria ++ b.select criteria :=
  List.filter_append ..

theorem count_append
    : (a ++ b).count criteria = a.count criteria + b.count criteria := by
  rw [count, select_append, List.length_append, count, count]

/-- The set of the values that the entries meeting the criteria take. -/
def valueSet {α : Type} [DecidableEq α] (archive : Archive) (criteria : Criteria)
    (value : Entry → α)
    : Finset α :=
  ((archive.select criteria).map value).toFinset

section Values

variable {α : Type} [LE α] [DecidableLE α] [DecidableEq α] [LT α] [Std.IsLinearOrder α]
  [Std.LawfulOrderLT α] (value : Entry → α)

theorem unites_valuesOf
    : Unites (a.valuesOf criteria value) (b.valuesOf criteria value)
        ((a ++ b).valuesOf criteria value) := by
  refine { mem_iff := fun v => ?_, ascending := ascending_valuesOf .. }
  simp only [mem_valuesOf, entries_append, List.mem_append, or_and_right, exists_or]

/-- As many values are listed as the set of them has. -/
theorem length_valuesOf
    : (a.valuesOf criteria value).length = (a.valueSet criteria value).card := by
  have distinct : (a.valuesOf criteria value).Nodup :=
    (a.ascending_valuesOf criteria value).imp Std.ne_of_lt
  rw [← List.toFinset_card_of_nodup distinct]
  refine congrArg Finset.card (Finset.ext fun v => ?_)
  simp only [valuesOf, valueSet, List.mem_toFinset, mem_distinct]

theorem length_valuesOf_append
    : ((a ++ b).valuesOf criteria value).length
      = (a.valueSet criteria value ∪ b.valueSet criteria value).card := by
  rw [length_valuesOf, valueSet, select_append, List.map_append, List.toFinset_append,
    valueSet, valueSet]

end Values

theorem unites_timesOf
    : Unites (a.timesOf criteria) (b.timesOf criteria) ((a ++ b).timesOf criteria) := by
  refine { mem_iff := fun t => ?_, ascending := ascending_timesOf .. }
  simp only [mem_timesOf, entries_append, List.mem_append, or_and_right, exists_or]

theorem unites_answer (query : Query)
    : Answer.Unites (a.answer query) (b.answer query) ((a ++ b).answer query) := by
  simp only [answer]
  cases query.select with
  | address => exact .texts (unites_valuesOf a b query.criteria Entry.address)
  | user => exact .texts (unites_valuesOf a b query.criteria Entry.user)
  | time => exact .times (unites_timesOf a b query.criteria)
  | event => exact .events (unites_valuesOf a b query.criteria Entry.event)
  | status => exact .statuses (unites_valuesOf a b query.criteria Entry.status)

/-- The least of two lists is the lesser of their least, by induction on the first list. -/
theorem min?_append (earlier later : List Instant)
    : (earlier ++ later).min? = Option.merge min earlier.min? later.min? := by
  induction earlier with
  | nil => simp
  | cons t rest ih =>
      rw [List.cons_append, List.min?_cons, List.min?_cons, ih]
      cases rest.min? <;> cases later.min? <;> simp [Std.Associative.assoc]

theorem firstTime?_append
    : (a ++ b).firstTime? criteria
      = Option.merge min (a.firstTime? criteria) (b.firstTime? criteria) := by
  rw [firstTime?, select_append, List.filterMap_append, min?_append, firstTime?, firstTime?]

theorem adds_tallyOf (event : Event) (window : Window)
    : Tally.Adds (a.tallyOf event window) (b.tallyOf event window)
        ((a ++ b).tallyOf event window) := by
  simp only [tallyOf, select_append, List.filterMap_append]
  exact Tally.adds_ofTasks _ _

-----------------------------------------------------------------------------------------
-- Every question
-----------------------------------------------------------------------------------------

/-- What an archive lists is united when it is put behind another. -/
def UnitesIn {α : Type} [LT α] (a b : Archive) (ask : Archive → List α) : Prop :=
  Unites (ask a) (ask b) (ask (a ++ b))

/-- How two archives put together answer, from how each of them does: every query, every choice of
entries and every fixed question about a window.
-/
structure Merges (a b : Archive) (window : Window) : Prop where
  answer (query : Query) : Answer.Unites (a.answer query) (b.answer query) ((a ++ b).answer query)
  select (criteria : Criteria) : (a ++ b).select criteria = a.select criteria ++ b.select criteria
  addresses : UnitesIn a b (·.addresses window)
  addressesOfUser (user : String) : UnitesIn a b (·.addressesOfUser user window)
  addressesOfEvent (event : Event) : UnitesIn a b (·.addressesOfEvent event window)
  addressesOfStatus (status : Status) : UnitesIn a b (·.addressesOfStatus status window)
  allUsers : UnitesIn a b (·.allUsers)
  usersAt (address : String) : UnitesIn a b (·.usersAt address window)
  loggedInUsers : UnitesIn a b (·.loggedInUsers window)
  downloadingUsers : UnitesIn a b (·.downloadingUsers window)
  writingUsers : UnitesIn a b (·.writingUsers window)
  solvingUsers : UnitesIn a b (·.solvingUsers window)
  doneUsers : UnitesIn a b (·.doneUsers window)
  solversOf (task : TaskId) : UnitesIn a b (·.solversOf task window)
  doersOf (task : TaskId) : UnitesIn a b (·.doersOf task window)
  events : UnitesIn a b (·.events window)
  eventsAt (address : String) : UnitesIn a b (·.eventsAt address window)
  eventsOfUser (user : String) : UnitesIn a b (·.eventsOfUser user window)
  failedEvents : UnitesIn a b (·.failedEvents window)
  errorEvents : UnitesIn a b (·.errorEvents window)
  timesOfUserEvent (user : String) (event : Event)
    : UnitesIn a b (·.timesOfUserEvent user event window)
  writingTimes (user : String) : UnitesIn a b (·.writingTimes user window)
  downloadTimes (user : String) : UnitesIn a b (·.downloadTimes user window)
  failureTimes : UnitesIn a b (·.failureTimes window)
  errorTimes : UnitesIn a b (·.errorTimes window)
  firstLogin? (user : String)
    : (a ++ b).firstLogin? user window
      = Option.merge min (a.firstLogin? user window) (b.firstLogin? user window)
  firstSolved? (user : String) (task : TaskId)
    : (a ++ b).firstSolved? user task window
      = Option.merge min (a.firstSolved? user task window) (b.firstSolved? user task window)
  firstDone? (user : String) (task : TaskId)
    : (a ++ b).firstDone? user task window
      = Option.merge min (a.firstDone? user task window) (b.firstDone? user task window)
  solveCount (task : TaskId)
    : (a ++ b).solveCount task window = a.solveCount task window + b.solveCount task window
  doneCount (task : TaskId)
    : (a ++ b).doneCount task window = a.doneCount task window + b.doneCount task window
  solveTally
    : Tally.Adds (a.solveTally window) (b.solveTally window) ((a ++ b).solveTally window)
  doneTally
    : Tally.Adds (a.doneTally window) (b.doneTally window) ((a ++ b).doneTally window)
  addressCount
    : (a ++ b).addressCount window
      = (a.valueSet { window := some window } Entry.address
          ∪ b.valueSet { window := some window } Entry.address).card
  userCount
    : (a ++ b).userCount window
      = (a.valueSet { window := some window } Entry.user
          ∪ b.valueSet { window := some window } Entry.user).card
  eventCount
    : (a ++ b).eventCount window
      = (a.valueSet { window := some window } Entry.event
          ∪ b.valueSet { window := some window } Entry.event).card
  eventCountOfUser (user : String)
    : (a ++ b).eventCountOfUser user window
      = (a.valueSet { user := some user, window := some window } Entry.event
          ∪ b.valueSet { user := some user, window := some window } Entry.event).card

/-- Whatever two archives hold, and however they overlap, their answers are put together. -/
theorem merges_append (window : Window) : Merges a b window where
  answer := a.unites_answer b
  select := a.select_append b
  addresses := a.unites_valuesOf b _ _
  addressesOfUser _ := a.unites_valuesOf b _ _
  addressesOfEvent _ := a.unites_valuesOf b _ _
  addressesOfStatus _ := a.unites_valuesOf b _ _
  allUsers := a.unites_valuesOf b _ _
  usersAt _ := a.unites_valuesOf b _ _
  loggedInUsers := a.unites_valuesOf b _ _
  downloadingUsers := a.unites_valuesOf b _ _
  writingUsers := a.unites_valuesOf b _ _
  solvingUsers := a.unites_valuesOf b _ _
  doneUsers := a.unites_valuesOf b _ _
  solversOf _ := a.unites_valuesOf b _ _
  doersOf _ := a.unites_valuesOf b _ _
  events := a.unites_valuesOf b _ _
  eventsAt _ := a.unites_valuesOf b _ _
  eventsOfUser _ := a.unites_valuesOf b _ _
  failedEvents := a.unites_valuesOf b _ _
  errorEvents := a.unites_valuesOf b _ _
  timesOfUserEvent _ _ := a.unites_timesOf b _
  writingTimes _ := a.unites_timesOf b _
  downloadTimes _ := a.unites_timesOf b _
  failureTimes := a.unites_timesOf b _
  errorTimes := a.unites_timesOf b _
  firstLogin? _ := a.firstTime?_append b _
  firstSolved? _ _ := a.firstTime?_append b _
  firstDone? _ _ := a.firstTime?_append b _
  solveCount _ := a.count_append b _
  doneCount _ := a.count_append b _
  solveTally := a.adds_tallyOf b _ _
  doneTally := a.adds_tallyOf b _ _
  addressCount := a.length_valuesOf_append b _ _
  userCount := a.length_valuesOf_append b _ _
  eventCount := a.length_valuesOf_append b _ _
  eventCountOfUser _ := a.length_valuesOf_append b _ _

end Archive

end Logbook
