import Logbook.Entry

/-! Tallies of tasks: how often each task occurred, by ascending task number. -/

namespace Logbook

/-- Tasks with the number of their occurrences, in ascending order of the tasks. -/
abbrev Tally := List (TaskId × Nat)

namespace Tally

/-- Counts one more occurrence of a task. -/
def add (task : TaskId) : Tally → Tally
  | [] => [(task, 1)]
  | (other, count) :: rest =>
      if task < other then
        (task, 1) :: (other, count) :: rest
      else if task = other then
        (other, count + 1) :: rest
      else
        (other, count) :: add task rest

/-- The tally of a list of tasks, taken in one pass. -/
def ofTasks (tasks : List TaskId) : Tally := tasks.foldl (fun tally task => tally.add task) []

/-- How often a task occurred. -/
def count (tally : Tally) (task : TaskId) : Nat := (tally.lookup task).getD 0

/-- The tasks that occurred. -/
def tasks (tally : Tally) : List TaskId := tally.map Prod.fst

end Tally

end Logbook
