import Logbook.Proofs.Archive.Selection
import Logbook.Proofs.Archive.Tallies
import Logbook.Query.Answer
import Logbook.Summary

/-! The order in which an archive holds its entries shows in no answer.
Every list that it answers with ascends, and is therefore decided by its members alone.
-/

namespace Logbook

-----------------------------------------------------------------------------------------
-- Times and tallies in another order
-----------------------------------------------------------------------------------------

/-- The least of a list does not depend on its order. -/
theorem min?_eq_of_perm {xs ys : List Instant} (h : xs.Perm ys) : xs.min? = ys.min? := by
  refine Option.ext fun t => ?_
  simp only [List.min?_eq_some_iff, h.mem_iff]

namespace Tally

theorem Ascending.mem_iff {tally : Tally} (ascending : tally.Ascending) {task : TaskId}
    {number : Nat}
    : (task, number) ∈ tally ↔ task ∈ tally.tasks ∧ tally.count task = number := by
  constructor
  · intro member
    exact ⟨List.mem_map_of_mem member, ascending.count_eq member⟩
  · rintro ⟨member, counted⟩
    obtain ⟨⟨_, found⟩, listed, rfl⟩ := List.mem_map.mp member
    rw [ascending.count_eq listed] at counted
    exact counted ▸ listed

theorem ofTasks_eq_of_perm {tasks others : List TaskId} (h : tasks.Perm others)
    : ofTasks tasks = ofTasks others := by
  have first := of_ofTasks tasks
  have second := of_ofTasks others
  refine eq_of_pairwise_of_mem_iff ?_ (List.pairwise_map.mp first.ascending)
    (List.pairwise_map.mp second.ascending) ?_
  · exact Std.not_gt_of_lt
  · rintro ⟨task, number⟩
    rw [first.ascending.mem_iff, second.ascending.mem_iff, first.mem_iff, second.mem_iff,
      first.count_eq, second.count_eq, h.mem_iff, h.count_eq]

end Tally

-----------------------------------------------------------------------------------------
-- Archives with the same entries in another order
-----------------------------------------------------------------------------------------

namespace Archive

section Perm

variable {a b : Archive} (h : a.entries.Perm b.entries) (criteria : Criteria)

include h

theorem select_perm : (a.select criteria).Perm (b.select criteria) := h.filter _

theorem count_eq_of_perm : a.count criteria = b.count criteria :=
  (select_perm h criteria).length_eq

theorem valuesOf_eq_of_perm {α : Type} [LE α] [DecidableLE α] [DecidableEq α] [LT α]
    [Std.IsLinearOrder α] [Std.LawfulOrderLT α] (value : Entry → α)
    : a.valuesOf criteria value = b.valuesOf criteria value := by
  refine eq_of_pairwise_of_mem_iff Std.not_gt_of_lt (ascending_valuesOf ..)
    (ascending_valuesOf ..) fun v => ?_
  simp only [mem_valuesOf, h.mem_iff]

theorem timesOf_eq_of_perm : a.timesOf criteria = b.timesOf criteria := by
  refine eq_of_pairwise_of_mem_iff Std.not_gt_of_lt (ascending_timesOf ..)
    (ascending_timesOf ..) fun t => ?_
  simp only [mem_timesOf, h.mem_iff]

theorem firstTime?_eq_of_perm : a.firstTime? criteria = b.firstTime? criteria :=
  min?_eq_of_perm ((select_perm h criteria).filterMap _)

theorem tallyOf_eq_of_perm (event : Event) (window : Window)
    : a.tallyOf event window = b.tallyOf event window :=
  Tally.ofTasks_eq_of_perm ((select_perm h _).filterMap _)

theorem answer_eq_of_perm (query : Query) : a.answer query = b.answer query := by
  simp only [answer, valuesOf_eq_of_perm h, timesOf_eq_of_perm h]

theorem summary_eq_of_perm : a.summary = b.summary := by
  simp only [summary, size, h.length_eq, addressCount, addresses, allUsers, events, solveTally,
    doneTally, valuesOf_eq_of_perm h, tallyOf_eq_of_perm h]

end Perm

/-- The archives give the same answer to every query and to every fixed question, and the same
headline figures.
-/
structure AnswersAlike (a b : Archive) : Prop where
  answer (query : Query) : a.answer query = b.answer query
  summary : a.summary = b.summary
  addresses (window : Window) : a.addresses window = b.addresses window
  addressCount (window : Window) : a.addressCount window = b.addressCount window
  addressesOfUser (user : String) (window : Window)
    : a.addressesOfUser user window = b.addressesOfUser user window
  addressesOfEvent (event : Event) (window : Window)
    : a.addressesOfEvent event window = b.addressesOfEvent event window
  addressesOfStatus (status : Status) (window : Window)
    : a.addressesOfStatus status window = b.addressesOfStatus status window
  allUsers : a.allUsers = b.allUsers
  userCount (window : Window) : a.userCount window = b.userCount window
  usersAt (address : String) (window : Window) : a.usersAt address window = b.usersAt address window
  loggedInUsers (window : Window) : a.loggedInUsers window = b.loggedInUsers window
  downloadingUsers (window : Window) : a.downloadingUsers window = b.downloadingUsers window
  writingUsers (window : Window) : a.writingUsers window = b.writingUsers window
  solvingUsers (window : Window) : a.solvingUsers window = b.solvingUsers window
  doneUsers (window : Window) : a.doneUsers window = b.doneUsers window
  solversOf (task : TaskId) (window : Window) : a.solversOf task window = b.solversOf task window
  doersOf (task : TaskId) (window : Window) : a.doersOf task window = b.doersOf task window
  events (window : Window) : a.events window = b.events window
  eventCount (window : Window) : a.eventCount window = b.eventCount window
  eventsAt (address : String) (window : Window)
    : a.eventsAt address window = b.eventsAt address window
  eventsOfUser (user : String) (window : Window)
    : a.eventsOfUser user window = b.eventsOfUser user window
  eventCountOfUser (user : String) (window : Window)
    : a.eventCountOfUser user window = b.eventCountOfUser user window
  failedEvents (window : Window) : a.failedEvents window = b.failedEvents window
  errorEvents (window : Window) : a.errorEvents window = b.errorEvents window
  timesOfUserEvent (user : String) (event : Event) (window : Window)
    : a.timesOfUserEvent user event window = b.timesOfUserEvent user event window
  writingTimes (user : String) (window : Window)
    : a.writingTimes user window = b.writingTimes user window
  downloadTimes (user : String) (window : Window)
    : a.downloadTimes user window = b.downloadTimes user window
  failureTimes (window : Window) : a.failureTimes window = b.failureTimes window
  errorTimes (window : Window) : a.errorTimes window = b.errorTimes window
  firstLogin? (user : String) (window : Window)
    : a.firstLogin? user window = b.firstLogin? user window
  firstSolved? (user : String) (task : TaskId) (window : Window)
    : a.firstSolved? user task window = b.firstSolved? user task window
  firstDone? (user : String) (task : TaskId) (window : Window)
    : a.firstDone? user task window = b.firstDone? user task window
  solveCount (task : TaskId) (window : Window) : a.solveCount task window = b.solveCount task window
  doneCount (task : TaskId) (window : Window) : a.doneCount task window = b.doneCount task window
  solveTally (window : Window) : a.solveTally window = b.solveTally window
  doneTally (window : Window) : a.doneTally window = b.doneTally window

theorem answersAlike_of_perm {a b : Archive} (h : a.entries.Perm b.entries)
    : AnswersAlike a b where
  answer := answer_eq_of_perm h
  summary := summary_eq_of_perm h
  addresses _ := valuesOf_eq_of_perm h _ _
  addressCount _ := congrArg List.length (valuesOf_eq_of_perm h _ _)
  addressesOfUser _ _ := valuesOf_eq_of_perm h _ _
  addressesOfEvent _ _ := valuesOf_eq_of_perm h _ _
  addressesOfStatus _ _ := valuesOf_eq_of_perm h _ _
  allUsers := valuesOf_eq_of_perm h _ _
  userCount _ := congrArg List.length (valuesOf_eq_of_perm h _ _)
  usersAt _ _ := valuesOf_eq_of_perm h _ _
  loggedInUsers _ := valuesOf_eq_of_perm h _ _
  downloadingUsers _ := valuesOf_eq_of_perm h _ _
  writingUsers _ := valuesOf_eq_of_perm h _ _
  solvingUsers _ := valuesOf_eq_of_perm h _ _
  doneUsers _ := valuesOf_eq_of_perm h _ _
  solversOf _ _ := valuesOf_eq_of_perm h _ _
  doersOf _ _ := valuesOf_eq_of_perm h _ _
  events _ := valuesOf_eq_of_perm h _ _
  eventCount _ := congrArg List.length (valuesOf_eq_of_perm h _ _)
  eventsAt _ _ := valuesOf_eq_of_perm h _ _
  eventsOfUser _ _ := valuesOf_eq_of_perm h _ _
  eventCountOfUser _ _ := congrArg List.length (valuesOf_eq_of_perm h _ _)
  failedEvents _ := valuesOf_eq_of_perm h _ _
  errorEvents _ := valuesOf_eq_of_perm h _ _
  timesOfUserEvent _ _ _ := timesOf_eq_of_perm h _
  writingTimes _ _ := timesOf_eq_of_perm h _
  downloadTimes _ _ := timesOf_eq_of_perm h _
  failureTimes _ := timesOf_eq_of_perm h _
  errorTimes _ := timesOf_eq_of_perm h _
  firstLogin? _ _ := firstTime?_eq_of_perm h _
  firstSolved? _ _ _ := firstTime?_eq_of_perm h _
  firstDone? _ _ _ := firstTime?_eq_of_perm h _
  solveCount _ _ := count_eq_of_perm h _
  doneCount _ _ := count_eq_of_perm h _
  solveTally _ := tallyOf_eq_of_perm h _ _
  doneTally _ := tallyOf_eq_of_perm h _ _

end Archive

end Logbook
