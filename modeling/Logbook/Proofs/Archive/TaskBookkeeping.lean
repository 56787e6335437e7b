import Logbook.Proofs.Archive.Reordering
import Logbook.Proofs.Entry.LineRoundTrip
import Logbook.Proofs.Intake.Sessions

/-! Task by task, an archive of log lines tells all that it tells about tasks as a whole.
A line about a task is stored only with its task, so that no entry of a task event is left out of
the tally and of the users of single tasks.
-/

namespace Logbook

-----------------------------------------------------------------------------------------
-- Entries that name their task
-----------------------------------------------------------------------------------------

namespace Entry

/-- The entry names a task if and only if it reports an event about one. -/
def Numbered (entry : Entry) : Prop :=
  entry.task? ≠ none ↔ entry.event = .solveTask ∨ entry.event = .doneTask

theorem isTask_of_task? {entry : Entry} (named : entry.task? ≠ none)
    : entry.event.isTask = true := by
  obtain ⟨address, user, time, action, status⟩ := entry
  cases action with
  | solveTask | doneTask => rfl
  | login | downloadPlugin | writeMessage | unknown => exact absurd rfl named

theorem Numbered.of_ofLine {limit : Nat} {line : String} {entry : Entry}
    (read : ofLine limit line = .ok entry)
    : entry.Numbered := by
  have kinds : entry.event.isTask = true ↔ entry.event = .solveTask ∨ entry.event = .doneTask := by
    simp [Event.isTask]
  rw [Numbered, ← kinds]
  exact ⟨isTask_of_task?, (Rereadable.of_ofLine read).numbered⟩

end Entry

/-- All that an intake has stored is numbered, and stays so whatever it is fed. -/
theorem Intake.numbered_session {intake : Intake} (feeds : List Feed)
    (h : intake.AllStored Entry.Numbered)
    : (intake.session feeds).AllStored Entry.Numbered := by
  refine session_induction h fun feed _ intake kept => ?_
  refine take_induction kept ?_ (fun _ kept => kept) (fun _ kept => kept)
  intro source number line intake kept
  exact kept.takeLine source number fun _ _ read => .of_ofLine read

namespace Archive

/-- An archive of log lines: of lines that are given, or of whatever a session took in. -/
inductive Recorded : Archive → Prop
  | ofLines (lines : List String) : Recorded (ofLines lines)
  | session (policy : Policy) (limit : Nat) (feeds : List Feed)
    : Recorded (Intake.session { policy, limit } feeds).archive

theorem exists_line_of_mem_ofLines {lines : List String} {entry : Entry}
    (member : entry ∈ (ofLines lines).entries)
    : ∃ line ∈ lines, Entry.ofLine Entry.defaultLimit line = .ok entry := by
  obtain ⟨line, given, found⟩ := List.mem_filterMap.mp member
  refine ⟨line, given, ?_⟩
  cases read : Entry.ofLine Entry.defaultLimit line with
  | error fault => simp [read, Except.toOption] at found
  | ok other =>
      rw [read] at found
      exact congrArg Except.ok (Option.some.inj found)

theorem Recorded.numbered {archive : Archive} (recorded : archive.Recorded)
    : ∀ entry ∈ archive.entries, entry.Numbered := by
  intro entry member
  cases recorded with
  | ofLines lines =>
      obtain ⟨line, -, read⟩ := exists_line_of_mem_ofLines member
      exact .of_ofLine read
  | session policy limit feeds =>
      refine Intake.numbered_session feeds ?_ entry (Array.mem_toList_iff.mp member)
      simp [Intake.AllStored]

end Archive

-----------------------------------------------------------------------------------------
-- The totals of tallies
-----------------------------------------------------------------------------------------

namespace Tally

/-- The sum of the numbers of a tally. -/
def total : Tally → Nat
  | [] => 0
  | (_, number) :: rest => number + total rest

theorem total_add (tally : Tally) (task : TaskId)
    : (tally.add task).total = tally.total + 1 := by
  induction tally with
  | nil => rfl
  | cons entry rest ih =>
      obtain ⟨first, number⟩ := entry
      rw [add]
      split
      · rw [total, Nat.add_comm]
      · split
        · rw [total, total, Nat.add_right_comm]
        · rw [total, total, ih, Nat.add_assoc]

/-- The pass counts every task of the list once, by induction on the tasks. -/
theorem total_foldl (tally : Tally) (tasks : List TaskId)
    : (tasks.foldl (fun tally task => tally.add task) tally).total
      = tally.total + tasks.length := by
  induction tasks generalizing tally with
  | nil => rfl
  | cons task rest ih =>
      rw [List.foldl_cons, ih, total_add, List.length_cons]
      omega

theorem total_ofTasks (tasks : List TaskId) : (ofTasks tasks).total = tasks.length := by
  rw [ofTasks, total_foldl]
  exact Nat.zero_add _

end Tally

-----------------------------------------------------------------------------------------
-- Tasks one by one and all together
-----------------------------------------------------------------------------------------

namespace Archive

variable {archive : Archive} {event : Event} {window : Window}

/-- How many entries of an event lie in a window. -/
def occurrences (archive : Archive) (event : Event) (window : Window) : Nat :=
  archive.entries.countP fun entry => entry.event = event ∧ window.contains entry.time = true

theorem admits_event_iff {entry : Entry}
    : Criteria.admits { event := some event, window := some window } entry = true
      ↔ entry.event = event ∧ window.contains entry.time = true := by
  simp [Criteria.admits_iff]

theorem admits_task_iff {task : TaskId} {entry : Entry}
    : Criteria.admits { event := some event, task := some task, window := some window } entry = true
      ↔ entry.event = event ∧ entry.task? = some task ∧ window.contains entry.time = true := by
  simp [Criteria.admits_iff]

/-- When every entry of an event names its task, the tally counts them all. -/
theorem total_tallyOf
    (named : ∀ entry ∈ archive.entries, entry.event = event → entry.task? ≠ none)
    : (archive.tallyOf event window).total = archive.occurrences event window := by
  have all
      : ∀ entry ∈ archive.select { event := some event, window := some window },
          entry.task?.isSome = true := by
    intro entry member
    obtain ⟨stored, admitted⟩ := mem_select.mp member
    exact Option.isSome_iff_ne_none.mpr (named entry stored (admits_event_iff.mp admitted).1)
  rw [tallyOf, Tally.total_ofTasks, List.filterMap_length_eq_length.mpr all, select,
    ← List.countP_eq_length_filter, occurrences]
  refine List.countP_congr fun entry _ => ?_
  rw [admits_event_iff, decide_eq_true_eq]

/-- When every entry of an event names its task, the users of the event are those of its tasks. -/
theorem usersOfEvent_eq
    (named : ∀ entry ∈ archive.entries, entry.event = event → entry.task? ≠ none)
    : archive.usersOfEvent event window
      = distinct
          ((archive.tallyOf event window).tasks.flatMap fun task =>
            archive.valuesOf
              { event := some event, task := some task, window := some window } Entry.user) := by
  have tasks := (archive.recounted_tallyOf event window).mem_tasks_iff
  refine valuesOf_eq_of_covers (fun entry stored => ?_) Entry.user
  simp only [admits_event_iff, admits_task_iff, tasks]
  constructor
  · rintro ⟨kind, within⟩
    obtain ⟨task, about⟩ := Option.ne_none_iff_exists'.mp (named entry stored kind)
    exact ⟨task, ⟨entry, stored, kind, about, within⟩, kind, about, within⟩
  · rintro ⟨task, -, kind, -, within⟩
    exact ⟨kind, within⟩

/-- No entry reports two events. -/
theorem occurrences_add_le {other : Event} (differs : event ≠ other)
    : archive.occurrences event window + archive.occurrences other window ≤ archive.size := by
  rw [size, List.length_eq_countP_add_countP
    fun entry : Entry => entry.event = event ∧ window.contains entry.time = true]
  refine Nat.add_le_add_left (List.countP_mono_left fun entry _ reported => ?_) _
  simp only [decide_eq_true_eq] at reported ⊢
  rintro ⟨same, -⟩
  exact differs (same.symm.trans reported.1)

/-- What is told of an event about tasks, in a window, is told of its tasks one by one: the numbers
of the tally add up to the entries of the event, and its users are those of the tasks that the
tally lists.
-/
structure Itemized (archive : Archive) (event : Event) (window : Window) (tally : Tally)
    (users : List String) (usersOf : TaskId → List String) : Prop where
  total : tally.total = archive.occurrences event window
  users : users = distinct (tally.tasks.flatMap usersOf)

/-- The tasks of an archive are booked without a gap: an entry names a task exactly when its event
is about one, and attempts and completions are itemized in every window.
-/
structure TasksBooked (archive : Archive) : Prop where
  numbered : ∀ entry ∈ archive.entries, entry.Numbered
  solved (window : Window)
    : archive.Itemized .solveTask window (archive.solveTally window) (archive.solvingUsers window)
        fun task => archive.solversOf task window
  done (window : Window)
    : archive.Itemized .doneTask window (archive.doneTally window) (archive.doneUsers window)
        fun task => archive.doersOf task window
  total_le (window : Window)
    : (archive.solveTally window).total + (archive.doneTally window).total ≤ archive.size

/-- However its lines came in, the tasks of an archive of log lines are booked. -/
theorem tasksBooked_of_recorded {archive : Archive} (recorded : archive.Recorded)
    : archive.TasksBooked := by
  have numbered := recorded.numbered
  have solving : ∀ entry ∈ archive.entries, entry.event = .solveTask → entry.task? ≠ none :=
    fun entry member kind => (numbered entry member).mpr (.inl kind)
  have done : ∀ entry ∈ archive.entries, entry.event = .doneTask → entry.task? ≠ none :=
    fun entry member kind => (numbered entry member).mpr (.inr kind)
  refine
    {
      numbered,
      solved := fun window => { total := total_tallyOf solving, users := usersOfEvent_eq solving },
      done := fun window => { total := total_tallyOf done, users := usersOfEvent_eq done },
      total_le := fun window => ?_,
    }
  rw [solveTally, doneTally, total_tallyOf solving, total_tallyOf done]
  exact occurrences_add_le (by decide)

/-- A source of three lines, one about a task that is no number and one without a time, and a single
line behind it. The completion without a time is stored, and booked in no window.
-/
theorem tasksBooked_of_recorded_skipping
    : let bad := "1\tB\t2.1.2014 0:0:0\tSOLVE_TASK x\tOK"
      let undated := "1\tC\t\tDONE_TASK 8\tOK"
      let done := "1\tC\t2.1.2014 0:0:0\tDONE_TASK-7\tOK"
      let bytes := Text.Utf8.encode (bad ++ "\r" ++ undated ++ "\n" ++ done).toList
      let feeds : List Feed :=
        [
          .source { name := "a", bytes },
          .line "b" 9 "2\tB\t3.1.2014 0:0:0\tSOLVE_TASK 7\tFAILED"
        ]
      let archive := (Intake.session { policy := .skip, limit := 40 } feeds).archive
      archive.Recorded
      ∧ archive.Itemized .solveTask .unbounded [(7, 1)] ["B"] (archive.solversOf · .unbounded)
      ∧ archive.Itemized .doneTask .unbounded [(-7, 1)] ["C"] (archive.doersOf · .unbounded)
      ∧ archive.size = 3 := by
  intro bad undated done bytes feeds archive
  have recorded : archive.Recorded := .session .skip 40 feeds
  have booked := tasksBooked_of_recorded recorded
  have tallies
      : archive.solveTally .unbounded = [(7, 1)] ∧ archive.doneTally .unbounded = [(-7, 1)] := by
    decide +kernel
  have users
      : archive.solvingUsers .unbounded = ["B"] ∧ archive.doneUsers .unbounded = ["C"] := by
    decide +kernel
  refine ⟨recorded, ?_, ?_, by decide +kernel⟩
  · have itemized := booked.solved .unbounded
    rwa [tallies.1, users.1] at itemized
  · have itemized := booked.done .unbounded
    rwa [tallies.2, users.2] at itemized

end Archive

end Logbook
