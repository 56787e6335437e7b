import Logbook.Catalog

/-! A tally taken in one pass is what counting the entries of each task anew would give.
The pass keeps the tasks in ascending order, and on this order rests that a task is found where it
was counted before.
-/

namespace Logbook

-----------------------------------------------------------------------------------------
-- Counting one more task
-----------------------------------------------------------------------------------------

namespace Tally

variable {tally : Tally} {task other : TaskId} {number : Nat}

@[simp]
theorem tasks_nil : tasks [] = [] := rfl

@[simp]
theorem tasks_cons : tasks ((task, number) :: tally) = task :: tally.tasks := rfl

@[simp]
theorem count_nil : count [] other = 0 := rfl

theorem count_cons
    : count ((task, number) :: tally) other
      = if other = task then number else tally.count other := by
  by_cases same : other = task
  · simp [count, same]
  · simp [count, List.lookup_cons, same, beq_false_of_ne same]

theorem count_of_not_mem (absent : other ∉ tally.tasks) : tally.count other = 0 := by
  induction tally with
  | nil => rfl
  | cons entry rest ih =>
      obtain ⟨task, number⟩ := entry
      rw [tasks_cons, List.mem_cons, not_or] at absent
      rw [count_cons, if_neg absent.1, ih absent.2]

/-- Each task is listed once, after the smaller ones. -/
def Ascending (tally : Tally) : Prop := tally.tasks.Pairwise (· < ·)

theorem ascending_cons
    : Ascending ((task, number) :: tally)
      ↔ (∀ later ∈ tally.tasks, task < later) ∧ tally.Ascending :=
  List.pairwise_cons

/-- In an ascending tally the number beside a task is its count, by induction on the tally. -/
theorem Ascending.count_eq (ascending : tally.Ascending) (member : (task, number) ∈ tally)
    : tally.count task = number := by
  induction tally with
  | nil => cases member
  | cons entry rest ih =>
      obtain ⟨first, firstNumber⟩ := entry
      obtain ⟨above, ascending⟩ := ascending_cons.mp ascending
      rw [count_cons]
      rcases List.mem_cons.mp member with same | later
      · cases same
        rw [if_pos rfl]
      · have inRest : task ∈ tasks rest := List.mem_map_of_mem later
        have differs : task ≠ first := fun same => Std.lt_irrefl (same ▸ above task inRest)
        rw [if_neg differs, ih ascending later]

@[simp]
theorem mem_tasks_add
    : other ∈ (tally.add task).tasks ↔ other = task ∨ other ∈ tally.tasks := by
  induction tally with
  | nil => simp [add]
  | cons entry rest ih =>
      obtain ⟨first, number⟩ := entry
      rw [add]
      split
      · simp
      · split
        · next same => simp [same]
        · simp only [tasks_cons, List.mem_cons, ih, or_left_comm]

/-- A further task is put in its place, by induction on the tally. -/
theorem Ascending.add (ascending : tally.Ascending) (task : TaskId)
    : (tally.add task).Ascending := by
  induction tally with
  | nil => exact List.pairwise_singleton ..
  | cons entry rest ih =>
      obtain ⟨first, number⟩ := entry
      obtain ⟨above, later⟩ := ascending_cons.mp ascending
      rw [Tally.add]
      split
      · next below =>
          refine ascending_cons.mpr ⟨fun other member => ?_, ascending⟩
          rcases List.mem_cons.mp member with rfl | inRest
          · exact below
          · exact Std.lt_trans below (above other inRest)
      · next notBelow =>
          split
          · next same => exact ascending_cons.mpr ⟨above, later⟩
          · next differs =>
              refine ascending_cons.mpr ⟨fun other member => ?_, ih later⟩
              rcases mem_tasks_add.mp member with rfl | inRest
              · exact Std.lt_of_le_of_ne (Std.not_lt.mp notBelow) (Ne.symm differs)
              · exact above other inRest

/-- A further task raises its own count by one. Where the tally begins with a larger task, the task
was not counted before, because the tally ascends.
-/
theorem Ascending.count_add (ascending : tally.Ascending) (task other : TaskId)
    : (tally.add task).count other = tally.count other + if other = task then 1 else 0 := by
  induction tally with
  | nil => by_cases same : other = task <;> simp [Tally.add, count_cons, same]
  | cons entry rest ih =>
      obtain ⟨first, number⟩ := entry
      obtain ⟨above, later⟩ := ascending_cons.mp ascending
      rw [Tally.add]
      split
      · next below =>
          by_cases same : other = task
          · have absent : task ∉ tasks ((first, number) :: rest) := by
              intro member
              rcases List.mem_cons.mp member with equal | inRest
              · exact Std.lt_irrefl (equal ▸ below)
              · exact Std.lt_irrefl (Std.lt_trans below (above task inRest))
            rw [same, count_of_not_mem absent]
            simp [count_cons]
          · rw [count_cons, if_neg same, if_neg same, Nat.add_zero]
      · split
        · next equal =>
            by_cases same : other = first <;> simp [count_cons, equal, same]
        · next differs =>
            rw [count_cons, count_cons, ih later]
            by_cases same : other = first
            · have notTask : other ≠ task := fun equal => differs (equal.symm.trans same)
              rw [if_pos same, if_pos same, if_neg notTask, Nat.add_zero]
            · rw [if_neg same, if_neg same]

-----------------------------------------------------------------------------------------
-- The tally of a list of tasks
-----------------------------------------------------------------------------------------

/-- The tally holds the tasks of the list, each with the number of its occurrences. -/
structure Of (tally : Tally) (tasks : List TaskId) : Prop where
  ascending : tally.Ascending
  mem_iff : ∀ task, task ∈ tally.tasks ↔ task ∈ tasks
  count_eq : ∀ task, tally.count task = tasks.count task

/-- One more task goes into the tally as it goes to the end of the list. -/
theorem Of.add {tasks : List TaskId} (h : tally.Of tasks) (task : TaskId)
    : (tally.add task).Of (tasks ++ [task]) := by
  refine
    {
      ascending := h.ascending.add task,
      mem_iff := fun other => ?_,
      count_eq := fun other => ?_,
    }
  · rw [mem_tasks_add, h.mem_iff, List.mem_append, List.mem_singleton, or_comm]
  · rw [h.ascending.count_add, h.count_eq, List.count_append, List.count_singleton]
    by_cases same : task = other
    · simp [same]
    · simp [same, Ne.symm same]

/-- The pass over a list of tasks gives their tally, by induction on the tasks still to be counted.
-/
theorem of_foldl {done : List TaskId} (h : tally.Of done) (tasks : List TaskId)
    : (tasks.foldl (fun tally task => tally.add task) tally).Of (done ++ tasks) := by
  induction tasks generalizing tally done with
  | nil => simpa using h
  | cons task rest ih => simpa using ih (h.add task)

theorem of_ofTasks (tasks : List TaskId) : (ofTasks tasks).Of tasks := by
  have empty : Of [] [] :=
    { ascending := .nil, mem_iff := fun _ => Iff.rfl, count_eq := fun _ => rfl }
  exact of_foldl empty tasks

end Tally

-----------------------------------------------------------------------------------------
-- The tallies of an archive
-----------------------------------------------------------------------------------------

namespace Archive

variable (archive : Archive)

/-- The tasks that the entries of an event in a window are about, one for each entry. -/
def tasksOf (event : Event) (window : Window) : List TaskId :=
  (archive.select { event := some event, window := some window }).filterMap Entry.task?

theorem mem_tasksOf {event : Event} {window : Window} {task : TaskId}
    : task ∈ archive.tasksOf event window
      ↔ ∃ entry ∈ archive.entries,
          entry.event = event
          ∧ entry.task? = some task
          ∧ window.contains entry.time = true := by
  simp only [tasksOf, select, List.mem_filterMap, List.mem_filter]
  refine exists_congr fun entry => ?_
  simp [Criteria.admits, Entry.isEvent, Entry.isWithin, and_comm, and_left_comm]

/-- Counting the entries about one task is counting the task among those of all entries. -/
theorem count_tasksOf (event : Event) (task : TaskId) (window : Window)
    : (archive.tasksOf event window).count task
      = archive.count { event := some event, task := some task, window := some window } := by
  have criteria (entry : Entry)
      : Criteria.admits { event := some event, task := some task, window := some window } entry
        = (entry.isAbout task
            && Criteria.admits { event := some event, window := some window } entry) := by
    simp [Criteria.admits, Bool.and_assoc, Bool.and_left_comm]
  rw [tasksOf, List.count_filterMap, select, List.countP_filter, count, select,
    ← List.countP_eq_length_filter]
  exact congrArg (fun p => archive.entries.countP p) (funext fun entry => (criteria entry).symm)

/-- A tally that says of every task what counting its entries in the window says. -/
structure Recounted (event : Event) (window : Window) (tally : Tally) (count : TaskId → Nat)
    : Prop where
  mem_tasks_iff
    : ∀ task,
        task ∈ tally.tasks
        ↔ ∃ entry ∈ archive.entries,
            entry.event = event
            ∧ entry.task? = some task
            ∧ window.contains entry.time = true
  ascending : tally.tasks.Pairwise (· < ·)
  number_eq : ∀ task number, (task, number) ∈ tally → number = count task ∧ 1 ≤ number
  absent : ∀ task, task ∉ tally.tasks → count task = 0

/-- The tally of either event of a task is recounted by its counts. -/
theorem recounted_tallyOf (event : Event) (window : Window)
    : archive.Recounted event window (archive.tallyOf event window) fun task =>
        archive.count { event := some event, task := some task, window := some window } := by
  have tally : (archive.tallyOf event window).Of (archive.tasksOf event window) :=
    Tally.of_ofTasks _
  refine
    {
      mem_tasks_iff := fun task => ?_,
      ascending := tally.ascending,
      number_eq := fun task number member => ?_,
      absent := fun task absent => ?_,
    }
  · rw [tally.mem_iff, mem_tasksOf]
  · have counted := tally.ascending.count_eq member
    have present : task ∈ archive.tasksOf event window :=
      (tally.mem_iff task).mp (List.mem_map_of_mem member)
    rw [tally.count_eq] at counted
    refine ⟨?_, ?_⟩
    · rw [← count_tasksOf, counted]
    · rw [← counted]
      exact List.count_pos_iff.mpr present
  · rw [← count_tasksOf, List.count_eq_zero]
    exact fun present => absent ((tally.mem_iff task).mpr present)

/-- The tallies of attempts and of completions list, in ascending order and each once, exactly the
tasks of the window, with the numbers that counting each task anew gives.
-/
theorem tallies_recounted (window : Window)
    : archive.Recounted .solveTask window (archive.solveTally window)
        (fun task => archive.solveCount task window)
      ∧ archive.Recounted .doneTask window (archive.doneTally window)
          (fun task => archive.doneCount task window) :=
  ⟨archive.recounted_tallyOf .solveTask window, archive.recounted_tallyOf .doneTask window⟩

/-- Entries out of order, one of a negative task, one of another event, and one without a time,
which leaves its task out of the tally.
-/
theorem tallies_recounted_undated
    : let archive :=
        ofLines
          [
            "1\tA\t1.1.2014 0:0:0\tSOLVE_TASK 2\tOK",
            "1\tB\t2.1.2014 0:0:0\tSOLVE_TASK-7\tOK",
            "1\tA\t3.1.2014 0:0:0\tSOLVE_TASK 2\tFAILED",
            "1\tA\t3.1.2014 0:0:0\tDONE_TASK 3\tOK",
            "1\tA\tno date\tSOLVE_TASK 5\tOK"
          ]
      archive.solveTally .unbounded = [(-7, 1), (2, 2)]
      ∧ (2 = archive.solveCount 2 .unbounded ∧ 1 ≤ 2)
      ∧ archive.solveCount 5 .unbounded = 0 := by
  intro archive
  have tally : archive.solveTally .unbounded = [(-7, 1), (2, 2)] := by decide +kernel
  have recounted := (archive.tallies_recounted .unbounded).1
  refine ⟨tally, ?_, ?_⟩
  · exact recounted.number_eq 2 2 (by rw [tally]; decide)
  · exact recounted.absent 5 (by rw [tally]; decide)

end Archive

end Logbook
