import Logbook.Proofs.Entry.Reading
import Logbook.Proofs.Instant.ReadBack
import Logbook.Proofs.Text.Integers
import Logbook.Proofs.Text.Occurrences
import Logbook.Proofs.Text.Splitting

/-! Entries written as lines and read back.
Only the two free texts of an entry can bring a tab into its line, and only a task event without a
number has an event field that is not read, so these and the size are all that can go wrong.
-/

namespace Logbook

open Text

-----------------------------------------------------------------------------------------
-- No control character comes from the fields other than the free texts
-----------------------------------------------------------------------------------------

/-- No control character is written into a field of an entry other than its free texts. -/
def Plain (field : List Char) : Prop := ∀ c ∈ field, ' ' ≤ c

theorem Plain.of_all {field : List Char} (h : field.all (' ' ≤ ·) = true) : Plain field := by
  intro c hc
  exact of_decide_eq_true (List.all_eq_true.mp h c hc)

theorem Plain.append {left right : List Char} (hl : Plain left) (hr : Plain right)
    : Plain (left ++ right) := by
  intro c hc
  rcases List.mem_append.mp hc with hc | hc
  · exact hl c hc
  · exact hr c hc

theorem Plain.cons {c : Char} {rest : List Char} (hc : ' ' ≤ c) (hr : Plain rest)
    : Plain (c :: rest) :=
  List.forall_mem_cons.mpr ⟨hc, hr⟩

theorem space_le_of_isDigit {c : Char} (h : c.isDigit = true) : ' ' ≤ c := by
  have bounds : 48 ≤ c.val ∧ c.val ≤ 57 := by simpa [Char.isDigit] using h
  exact UInt32.le_trans (by decide) bounds.1

theorem plain_signedDigits (n : Int) : Plain (signedDigits n) := by
  have magnitude : Plain (digits n.natAbs) :=
    fun _ hc => space_le_of_isDigit (isDigit_of_mem_digits hc)
  unfold signedDigits
  split
  · exact .cons (by decide) magnitude
  · exact magnitude

theorem plain_instant (t : Instant) : Plain t.text := by
  have marks : Plain ['-', '+', '.', ' ', ':'] := .of_all (by decide)
  intro c hc
  rcases Instant.isDigit_or_mark_of_mem_text hc with digit | mark
  · exact space_le_of_isDigit digit
  · exact marks c mark

theorem plain_event (event : Event) : Plain event.name.toList := by
  apply Plain.of_all
  cases event <;> decide

theorem plain_action (action : Action) : Plain action.text := by
  refine (plain_event action.event).append ?_
  cases action.task? with
  | none => exact List.forall_mem_nil _
  | some task => exact .cons (by decide) (plain_signedDigits _)

theorem plain_status (status : Status) : Plain status.name.toList := by
  apply Plain.of_all
  cases status <;> decide

theorem Plain.not_mem {field : List Char} {c : Char} (h : Plain field) (control : c < ' ')
    : c ∉ field :=
  fun member => Char.not_le.mpr control (h c member)

-----------------------------------------------------------------------------------------
-- Each field is read back
-----------------------------------------------------------------------------------------

theorem Event.name_of_ofName? {name : String} {event : Event} (h : ofName? name = some event)
    : event.name = name := by
  have found := List.find?_some h
  simp only [Bool.and_eq_true, beq_iff_eq] at found
  exact found.2

@[simp]
theorem read_status (status : Status) : Status.read status.name.toList = status := by
  rw [Status.read, String.ofList_toList]
  cases status <;> decide

/-- A letter occurs in an event field only as part of the name. -/
theorem Action.not_mem_text {action : Action} {c : Char} (name : c ∉ action.event.name.toList)
    (space : c ≠ ' ') (sign : c ≠ '-') (digit : c.isDigit = false)
    : c ∉ action.text := by
  rw [text, List.mem_append, not_or]
  refine ⟨name, ?_⟩
  cases action.task? with
  | none => exact List.not_mem_nil
  | some task => simp [space, not_mem_signedDigits sign digit]

theorem Action.occurs_name (action : Action)
    : occurs action.event.name.toList action.text = true := by
  have nonempty : action.event.name.toList ≠ [] := by
    cases action.event <;> decide
  exact occurs_append nonempty _

/-- Beside the name of a task event its number is left, if it has one. The letter `S` belongs to
the name, so that nothing of the number is taken out.
-/
theorem Action.taskBeside?_text (action : Action) (isTask : action.event.isTask = true)
    : taskBeside? action.event.name action.text = action.task? := by
  have letter : 'S' ∈ action.event.name.toList := by
    revert isTask
    cases action.event <;> decide
  rw [taskBeside?, text, without_append (List.ne_nil_of_mem letter)]
  cases action.task? with
  | none =>
      rw [without_eq_self letter List.not_mem_nil]
      rfl
  | some task =>
      have absent : 'S' ∉ ' ' :: signedDigits task.toInt := by
        simp [not_mem_signedDigits (c := 'S') (by decide) (by decide)]
      have written := writesInt32_signedDigits task
      have kept
          : (signedDigits task.toInt).filter (fun c => !isBlank c) = signedDigits task.toInt :=
        List.filter_eq_self.mpr fun c hc => congrArg Bool.not (written.isBlank_eq_false hc)
      rw [without_eq_self letter absent, List.filter_cons_of_neg (by decide), kept,
        written.int32?_eq]

/-- An event field without the letter `S` or the letter `K` holds no task event. -/
theorem Action.read?_of_no_task {field : List Char} (h : 'S' ∉ field ∨ 'K' ∉ field)
    : Action.read? field
      = some (ofEvent ((Event.ofName? (String.ofList field)).getD .unknown) none) := by
  have solve : occurs Event.solveTask.name.toList field = false := by
    rcases h with h | h <;> exact occurs_eq_false (by decide) h
  have done : occurs Event.doneTask.name.toList field = false := by
    rcases h with h | h <;> exact occurs_eq_false (by decide) h
  rw [read?, solve, if_neg (by decide), done, if_neg (by decide)]

/-- A task event is read back with its number, and has no reading without one. -/
theorem Action.read?_solveTask (task : Option TaskId)
    : Action.read? (solveTask task).text = task.map fun task => solveTask (some task) := by
  have named : Event.solveTask.NamedIn (solveTask task).text :=
    .solveTask (occurs_name (solveTask task))
  have number : taskBeside? Event.solveTask.name (solveTask task).text = task :=
    taskBeside?_text (solveTask task) rfl
  rw [named.read?_eq, number]
  rfl

/-- The other task event holds no name of the first, as it lacks its letter `V`. -/
theorem Action.read?_doneTask (task : Option TaskId)
    : Action.read? (doneTask task).text = task.map fun task => doneTask (some task) := by
  have letter : 'V' ∉ Event.doneTask.name.toList := by decide
  have absent : 'V' ∉ (doneTask task).text :=
    not_mem_text letter (by decide) (by decide) (by decide)
  have other : occurs Event.solveTask.name.toList (doneTask task).text = false :=
    occurs_eq_false (by decide) absent
  have named : Event.doneTask.NamedIn (doneTask task).text :=
    .doneTask other (occurs_name (doneTask task))
  have number : taskBeside? Event.doneTask.name (doneTask task).text = task :=
    taskBeside?_text (doneTask task) rfl
  rw [named.read?_eq, number]
  rfl

/-- An event field is read back as its action, except a task event without a number. -/
theorem Action.read?_text (action : Action)
    : Action.read? action.text
      = if action.event.isTask = true ∧ action.task? = none then none else some action := by
  cases action with
  | login => exact read?_of_no_task (.inl (by decide))
  | downloadPlugin => exact read?_of_no_task (.inl (by decide))
  | writeMessage => exact read?_of_no_task (.inr (by decide))
  | solveTask task => rw [read?_solveTask]; cases task <;> rfl
  | doneTask task => rw [read?_doneTask]; cases task <;> rfl
  | unknown => exact read?_of_no_task (.inl (by decide))

-----------------------------------------------------------------------------------------
-- The fields of a line
-----------------------------------------------------------------------------------------

namespace Entry

/-- The tabs in the free texts of an entry. -/
def tabs (entry : Entry) : Nat :=
  entry.address.toList.count '\t' + entry.user.toList.count '\t'

theorem tabs_eq_zero {entry : Entry}
    : entry.tabs = 0 ↔ '\t' ∉ entry.address.toList ∧ '\t' ∉ entry.user.toList := by
  rw [tabs, Nat.add_eq_zero_iff, List.count_eq_zero, List.count_eq_zero]

/-- Without a number the event field is the name alone. -/
theorem text_of_unnumbered {entry : Entry} (h : entry.task? = none)
    : String.ofList entry.action.text = entry.event.name := by
  unfold task? at h
  rw [Action.text, h, List.append_nil, String.ofList_toList, event]

/-- The time field of an entry. -/
def timeField (entry : Entry) : List Char := (entry.time.map Instant.text).getD []

theorem plain_timeField (entry : Entry) : Plain entry.timeField := by
  unfold timeField
  cases entry.time with
  | none => exact List.forall_mem_nil _
  | some t => exact plain_instant t

/-- An empty time field has no reading, and any other is read back. -/
@[simp]
theorem read?_timeField (entry : Entry) : Instant.read? entry.timeField = entry.time := by
  unfold timeField
  cases entry.time with
  | none => rfl
  | some t => exact Instant.read?_text t

theorem toList_line (entry : Entry)
    : entry.line.toList
      = entry.address.toList ++ '\t' :: (entry.user.toList ++ '\t' :: (entry.timeField
          ++ '\t' :: (entry.action.text ++ '\t' :: entry.status.name.toList))) := by
  simp [line, fields, List.intercalate_cons_cons, timeField]

/-- A line is split at the tabs that separate its fields and at those in the free texts. Its last
field is a name, so no field is dropped at the end.
-/
theorem fieldsOfLine_line (entry : Entry)
    : fieldsOfLine entry.line.toList
      = entry.address.toList.splitOn '\t' ++ (entry.user.toList.splitOn '\t'
          ++ [entry.timeField, entry.action.text, entry.status.name.toList]) := by
  have time : '\t' ∉ entry.timeField := (plain_timeField entry).not_mem (by decide)
  have action : '\t' ∉ entry.action.text := (plain_action _).not_mem (by decide)
  have status : '\t' ∉ entry.status.name.toList := (plain_status _).not_mem (by decide)
  have nonempty : entry.status.name.toList.isEmpty = false := by
    cases entry.status <;> decide
  have split
      : entry.line.toList.splitOn '\t'
        = entry.address.toList.splitOn '\t' ++ (entry.user.toList.splitOn '\t'
            ++ [entry.timeField, entry.action.text, entry.status.name.toList]) := by
    rw [toList_line, List.splitOn_append_cons_self, List.splitOn_append_cons_self,
      List.splitOn_append_cons_self_of_not_mem time,
      List.splitOn_append_cons_self_of_not_mem action, List.splitOn_eq_singleton status]
  rw [fieldsOfLine, split]
  apply dropTrailing_eq_self
  simp [nonempty]

-----------------------------------------------------------------------------------------
-- The line of an entry is read back
-----------------------------------------------------------------------------------------

/-- The line of an entry is read back when it fits, its free texts hold no tab and its task event
has a number; what goes wrong first among these is what is reported.
-/
theorem ofLine_line (entry : Entry) (limit : Nat)
    : ofLine limit entry.line
      = if limit < entry.line.utf8ByteSize then
          .error (.tooLarge entry.line.utf8ByteSize limit)
        else if 0 < entry.tabs then
          .error (.fieldCount 5 (5 + entry.tabs))
        else if entry.event.isTask = true ∧ entry.task? = none then
          .error (.malformedTask entry.event.name)
        else
          .ok entry := by
  by_cases large : limit < entry.line.utf8ByteSize
  · rw [if_pos large, ofLine_of_large large]
  have fits := Nat.not_lt.mp large
  rw [if_neg large]
  by_cases tabbed : 0 < entry.tabs
  · have count : (fieldsOfLine entry.line.toList).length = 5 + entry.tabs := by
      rw [fieldsOfLine_line]
      simp only [List.length_append, length_splitOn, List.length_cons, List.length_nil, tabs]
      omega
    -- With a tab in a free text there are never five fields.
    rw [if_pos tabbed, ofLine_of_length_ne fits (by omega), count]
  · obtain ⟨address, user⟩ := tabs_eq_zero.mp (Nat.eq_zero_of_not_pos tabbed)
    have fields
        : fieldsOfLine entry.line.toList
          = [entry.address.toList, entry.user.toList, entry.timeField, entry.action.text,
              entry.status.name.toList] := by
      rw [fieldsOfLine_line, List.splitOn_eq_singleton address, List.splitOn_eq_singleton user]
      rfl
    have read : Action.read? entry.action.text
        = if entry.event.isTask = true ∧ entry.task? = none then none else some entry.action :=
      Action.read?_text entry.action
    rw [if_neg tabbed, ofLine_of_fields fits fields, read]
    by_cases unnumbered : entry.event.isTask = true ∧ entry.task? = none
    · rw [if_pos unnumbered, if_pos unnumbered, Option.elim_none,
        text_of_unnumbered unnumbered.2]
    · rw [if_neg unnumbered, if_neg unnumbered, Option.elim_some, read?_timeField, read_status]
      simp only [String.ofList_toList]

/-- The line of the entry is read back under every limit that it fits. -/
structure Rereadable (entry : Entry) : Prop where
  noTab : entry.tabs = 0
  numbered : entry.event.isTask = true → entry.task? ≠ none

theorem Rereadable.ofLine_line {entry : Entry} (h : entry.Rereadable) (limit : Nat)
    : ofLine limit entry.line
      = if limit < entry.line.utf8ByteSize then
          .error (.tooLarge entry.line.utf8ByteSize limit)
        else
          .ok entry := by
  have noTab : ¬0 < entry.tabs := by rw [h.noTab]; exact Nat.lt_irrefl 0
  have numbered : ¬(entry.event.isTask = true ∧ entry.task? = none) :=
    fun unnumbered => h.numbered unnumbered.1 unnumbered.2
  rw [Entry.ofLine_line, if_neg noTab, if_neg numbered]

/-- An action that was read has its number if it is about a task. -/
theorem numbered_of_read? {field : List Char} {action : Action}
    (h : Action.read? field = some action)
    : action.event.isTask = true → action.task? ≠ none := by
  intro isTask
  cases Action.readAs_of_read? h with
  | named named beside =>
      rw [Action.task?_ofEvent, if_pos named.isTask]
      exact Option.some_ne_none _
  | other noSolve noDone =>
      -- The field names no task event, so its event has no number to lack.
      rw [Action.event_ofEvent] at isTask
      cases found : Event.ofName? (String.ofList field) with
      | none => simp [found, Event.isTask] at isTask
      | some event =>
          have name : field = event.name.toList := by
            rw [Event.name_of_ofName? found, String.toList_ofList]
          rw [found, Option.getD_some] at isTask
          subst name
          cases event with
          | solveTask => exact absurd (occurs_self (by decide)) (Bool.eq_false_iff.mp noSolve)
          | doneTask => exact absurd (occurs_self (by decide)) (Bool.eq_false_iff.mp noDone)
          | login | downloadPlugin | writeMessage | unknown => contradiction

/-- What a line that was read says about its entry: the free texts are two of its fields. -/
theorem ofLine_eq_ok {limit : Nat} {line : String} {entry : Entry}
    (h : ofLine limit line = .ok entry)
    : ∃ event,
        entry.address.toList ∈ line.toList.splitOn '\t'
        ∧ entry.user.toList ∈ line.toList.splitOn '\t'
        ∧ Action.read? event = some entry.action := by
  have shape := readAs_ofLine limit line
  rw [h] at shape
  cases shape with
  | @entry address user time field status action fits fields read =>
      have piece {part : List Char} (member : part ∈ [address, user, time, field, status])
          : part ∈ line.toList.splitOn '\t' := by
        rw [← fields] at member
        exact mem_of_mem_dropTrailing member
      refine ⟨field, ?_, ?_, read⟩
      · rw [String.toList_ofList]
        exact piece (by simp)
      · rw [String.toList_ofList]
        exact piece (by simp)

theorem Rereadable.of_ofLine {limit : Nat} {line : String} {entry : Entry}
    (h : ofLine limit line = .ok entry)
    : entry.Rereadable := by
  obtain ⟨event, address, user, read⟩ := ofLine_eq_ok h
  have noTab {field : List Char} (piece : field ∈ line.toList.splitOn '\t') : '\t' ∉ field :=
    fun member => (mem_of_mem_splitOn piece member).2 rfl
  exact ⟨tabs_eq_zero.mpr ⟨noTab address, noTab user⟩, numbered_of_read? read⟩

/-- Apart from the tabs between the fields, a line brings control characters only from the free
texts of its entry.
-/
theorem mem_line {entry : Entry} {c : Char} (hc : c ∈ entry.line.toList) (noTab : c ≠ '\t')
    (control : c < ' ')
    : c ∈ entry.address.toList ∨ c ∈ entry.user.toList := by
  have time : c ∉ entry.timeField := (plain_timeField entry).not_mem control
  have action : c ∉ entry.action.text := (plain_action _).not_mem control
  have status : c ∉ entry.status.name.toList := (plain_status _).not_mem control
  simpa [toList_line, noTab, time, action, status] using hc

/-- The line of any entry that fits the limit is read back as that entry, unless a free text holds
a tab or a task event has no number; an entry that was itself read from a line has neither fault.
-/
theorem line_reads_back
    : (∀ (address user : String) (time : Option Instant) (event : Event) (task : Option TaskId)
        (status : Status) (limit : Nat),
          let entry : Entry := { address, user, time, action := .ofEvent event task, status }
          let tabs := address.toList.count '\t' + user.toList.count '\t'
          ofLine limit entry.line
          = if limit < entry.line.utf8ByteSize then
              .error (.tooLarge entry.line.utf8ByteSize limit)
            else if 0 < tabs then
              .error (.fieldCount 5 (5 + tabs))
            else if event.isTask = true ∧ task = none then
              .error (.malformedTask event.name)
            else
              .ok entry)
      ∧ ∀ (line : String) (limit : Nat) (entry : Entry),
          ofLine limit line = .ok entry
          → ∀ next,
              ofLine next entry.line
              = if next < entry.line.utf8ByteSize then
                  .error (.tooLarge entry.line.utf8ByteSize next)
                else
                  .ok entry := by
  constructor
  · intro address user time event task status limit entry tabs
    have kind : entry.event = event := Action.event_ofEvent event task
    have number : (event.isTask = true ∧ entry.task? = none)
        ↔ (event.isTask = true ∧ task = none) := by
      refine and_congr_right fun isTask => ?_
      rw [task?, Action.task?_ofEvent, if_pos isTask]
    have read := ofLine_line entry limit
    simp only [kind, number] at read
    exact read
  · intro line limit entry read next
    exact (Rereadable.of_ofLine read).ofLine_line next

/-- A year is written with four digits, so a line that was read may be written too long. -/
theorem line_reads_back_longer
    : let entry : Entry :=
        {
          address := "a",
          user := "b",
          time := Instant.ofNumbers? 1 1 3 0 0 0,
          action := .doneTask (some (-7)),
          status := .unknown,
        }
      ofLine 29 "a\tb\t1.1.3 0:0:0\tDONE_TASK-7\t?" = .ok entry
      ∧ ofLine 29 entry.line = .error (.tooLarge 39 29)
      ∧ ofLine 39 entry.line = .ok entry := by
  intro entry
  have read : ofLine 29 "a\tb\t1.1.3 0:0:0\tDONE_TASK-7\t?" = .ok entry := by
    have some : (ofLine 29 "a\tb\t1.1.3 0:0:0\tDONE_TASK-7\t?").toOption = some entry := by
      decide +kernel
    revert some
    cases ofLine 29 "a\tb\t1.1.3 0:0:0\tDONE_TASK-7\t?" <;> simp [Except.toOption]
  have size : entry.line.utf8ByteSize = 39 := by decide +kernel
  refine ⟨read, ?_, ?_⟩
  · rw [line_reads_back.2 _ _ _ read 29, size]
    rfl
  · rw [line_reads_back.2 _ _ _ read 39, size]
    rfl

end Entry

end Logbook
