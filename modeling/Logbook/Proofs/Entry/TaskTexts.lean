import Logbook.Proofs.Entry.TaskFields

/-! Event fields that name a task.
Such a field is made of copies of one name and of the characters of a number, between which white
space may stand. A field with the names of both task events, or with anything else beside a name, is
refused.
-/

namespace Logbook

open Text

-----------------------------------------------------------------------------------------
-- The characters beside the name
-----------------------------------------------------------------------------------------

/-- The sign of a number. -/
def isSign (c : Char) : Bool := c == '+' || c == '-'

/-- The characters that may stand beside the name of a task event. No letter is among them. -/
def BesideName (c : Char) : Prop := isBlank c = true ∨ c.isDigit = true ∨ isSign c = true

instance : DecidablePred BesideName :=
  fun c => inferInstanceAs (Decidable (isBlank c = true ∨ c.isDigit = true ∨ isSign c = true))

theorem isSign_eq_false_of_isBlank {c : Char} (h : isBlank c = true) : isSign c = false := by
  have differs (sign : Char) (mark : isBlank sign = false) : c ≠ sign := by
    rintro rfl
    rw [mark] at h
    cases h
  simp [isSign, differs '+' (by decide), differs '-' (by decide)]

theorem isSign_eq_false_of_isDigit {c : Char} (h : c.isDigit = true) : isSign c = false := by
  have differs (sign : Char) (mark : sign.isDigit = false) : c ≠ sign := by
    rintro rfl
    rw [mark] at h
    cases h
  simp [isSign, differs '+' (by decide), differs '-' (by decide)]

theorem besideName_of_writesInt32 {task : TaskId} {rest : List Char}
    (h : WritesInt32 task (glued rest)) {c : Char} (member : c ∈ rest)
    : BesideName c := by
  by_cases blank : isBlank c = true
  · exact .inl blank
  · have kept : c ∈ glued rest := List.mem_filter.mpr ⟨member, by simp [blank]⟩
    rcases h.isDigit_or_sign kept with digit | rfl | rfl
    · exact .inr (.inl digit)
    · exact .inr (.inr rfl)
    · exact .inr (.inr rfl)

/-- No digit of a numeral is a sign. -/
theorem countP_isSign_numeral {n : Nat} {numeral : List Char} (h : IsNumeral n numeral)
    : numeral.countP isSign = 0 := by
  apply List.countP_eq_zero.mpr
  intro c member
  simp [isSign_eq_false_of_isDigit (h.isDigit member)]

/-- An integer has one sign at most, in front of its digits. -/
theorem countP_isSign_le_one {task : TaskId} {text : List Char} (h : WritesInt32 task text)
    : text.countP isSign ≤ 1 := by
  cases h with
  | unsigned numeral_of _ => simp [countP_isSign_numeral numeral_of]
  | plus numeral_of _ => simp [countP_isSign_numeral numeral_of, isSign]
  | minus numeral_of _ => simp [countP_isSign_numeral numeral_of, isSign]

/-- White space has no signs. -/
theorem countP_isSign_glued (text : List Char)
    : (glued text).countP isSign = text.countP isSign := by
  rw [glued, List.countP_filter]
  apply List.countP_congr
  intro c _
  cases blank : isBlank c with
  | false => simp
  | true => simp [isSign_eq_false_of_isBlank blank]

-----------------------------------------------------------------------------------------
-- The fields that are read as a task event
-----------------------------------------------------------------------------------------

/-- The field is made of copies of the event's name, at least one, and of a text that writes the
number when its white space is left out.
-/
inductive Event.NumberedIn (event : Event) (task : TaskId) (field : List Char) : Prop
  | intro {count : Nat} {rest : List Char} (named : 0 < count)
    (strewn : Strewn event.name.toList count field rest) (writes : WritesInt32 task (glued rest))

theorem Event.NamedIn.occurs_name {event : Event} {field : List Char} (h : event.NamedIn field)
    : occurs event.name.toList field = true := by
  cases h with
  | solveTask named => exact named
  | doneTask _ named => exact named

theorem Event.NamedIn.name_ne_nil {event : Event} {field : List Char} (h : event.NamedIn field)
    : event.name.toList ≠ [] := by
  cases h <;> decide

/-- The copies of the name among such characters are found, and nothing else is. -/
theorem Event.NumberedIn.namedIn {event : Event} {task : TaskId} {field : List Char}
    (h : event.NumberedIn task field) (isTask : event.isTask = true)
    : event.NamedIn field ∧ WritesInt32 task (glued (event.restOf field)) := by
  obtain @⟨count, rest, named, strewn, writes⟩ := h
  have absent {letter : Char} (strange : ¬BesideName letter) : letter ∉ rest :=
    fun member => strange (besideName_of_writesInt32 writes member)
  cases event with
  | solveTask =>
      have begins : Event.solveTask.name.toList.head? = some 'S' := by decide
      obtain ⟨left, found⟩ := strewn.without_eq begins (absent (by decide))
      exact ⟨.solveTask (found named), by rw [restOf, left]; exact writes⟩
  | doneTask =>
      have begins : Event.doneTask.name.toList.head? = some 'D' := by decide
      obtain ⟨left, found⟩ := strewn.without_eq begins (absent (by decide))
      -- Only the name of the other task event has this letter.
      have other : 'L' ∉ field := fun member =>
        (strewn.mem_or_mem member).elim (by decide) (absent (by decide))
      refine ⟨.doneTask (occurs_eq_false (by decide) other) (found named), ?_⟩
      rw [restOf, left]
      exact writes
  | login | downloadPlugin | writeMessage | unknown => cases isTask

/-- A field is read as a task event with a number exactly when it is made of these. -/
theorem Action.read?_numbered_iff {event : Event} {task : TaskId} {field : List Char}
    (isTask : event.isTask = true)
    : read? field = some (ofEvent event (some task)) ↔ event.NumberedIn task field := by
  have number (task : TaskId) : (ofEvent event (some task)).task? = some task := by
    rw [task?_ofEvent, if_pos isTask]
  constructor
  · intro read
    have named := Event.namedIn_of_read? read (number task)
    rw [event_ofEvent] at named
    have beside : taskBeside? event.name field = some task := by
      rw [named.read?_eq] at read
      obtain ⟨found, beside, same⟩ := Option.map_eq_some_iff.mp read
      have tasks := congrArg Action.task? same
      rw [number, number] at tasks
      rw [beside, tasks]
    obtain ⟨count, strewn, positive⟩ := strewn_without named.name_ne_nil field
    exact ⟨positive named.occurs_name, strewn, taskBeside?_eq_some_iff.mp beside⟩
  · intro numbered
    obtain ⟨named, writes⟩ := numbered.namedIn isTask
    rw [named.read?_eq, taskBeside?_eq_some_iff.mpr writes]
    rfl

/-- White space around the name and the number is no part of either. -/
theorem Event.NumberedIn.of_written {event : Event} {task : TaskId}
    {front gap literal back : List Char} (blank : ∀ c ∈ front ++ gap ++ back, isBlank c = true)
    (writes : WritesInt32 task literal)
    : event.NumberedIn task (front ++ event.name.toList ++ gap ++ literal ++ back) := by
  have gone {part : List Char} (inside : part ⊆ front ++ gap ++ back) : glued part = [] :=
    List.filter_eq_nil_iff.mpr fun c member => by simp [blank c (inside member)]
  have whole : glued literal = literal :=
    List.filter_eq_self.mpr fun c member => by simp [writes.isBlank_eq_false member]
  have left : glued (front ++ (gap ++ literal ++ back)) = literal := by
    have parts : glued front = [] ∧ glued gap = [] ∧ glued back = [] :=
      ⟨gone (by simp), gone (by simp), gone (by simp)⟩
    simp only [glued, List.filter_append] at parts whole ⊢
    simp [parts, whole]
  have strewn
      : Strewn event.name.toList 1 (front ++ (event.name.toList ++ (gap ++ literal ++ back)))
          (front ++ (gap ++ literal ++ back)) := by
    simpa using (Strewn.refl event.name.toList front).append (Strewn.refl _ _).copy
  refine ⟨Nat.one_pos, ?_, left.symm ▸ writes⟩
  simpa using strewn

/-- Every reading as a task event has its number. -/
theorem Action.exists_numberedIn {field : List Char} {action : Action}
    (read : read? field = some action) (isTask : action.event.isTask = true)
    : ∃ task, action.task? = some task ∧ action.event.NumberedIn task field := by
  obtain ⟨task, number⟩ := Option.ne_none_iff_exists'.mp (Entry.numbered_of_read? read isTask)
  refine ⟨task, number, (read?_numbered_iff isTask).mp ?_⟩
  rw [read, ← number, ofEvent_event_task?]

-----------------------------------------------------------------------------------------
-- The fields that are refused
-----------------------------------------------------------------------------------------

/-- The field has no reading, and it is what is said to be wrong with its line. -/
structure Action.Refused (field : List Char) : Prop where
  unread : read? field = none
  reported
    : ∀ (limit : Nat) (line : String) (address user time status : List Char),
        line.utf8ByteSize ≤ limit
        → Entry.fieldsOfLine line.toList = [address, user, time, field, status]
        → Entry.ofLine limit line = .error (.malformedTask (String.ofList field))

theorem Action.Refused.of_unread {field : List Char} (unread : read? field = none)
    : Refused field := by
  refine { unread, reported := fun limit line address user time status fits fields => ?_ }
  rw [Entry.ofLine_of_fields fits fields, unread]
  rfl

/-- Whatever else is beside the name, the field is refused. -/
theorem Event.NamedIn.refused {event : Event} {field : List Char} (named : event.NamedIn field)
    {c : Char} (member : c ∈ event.restOf field) (strange : ¬BesideName c)
    : Action.Refused field := by
  apply Action.Refused.of_unread
  rw [named.read?_eq_none_iff]
  exact fun task writes => strange (besideName_of_writesInt32 writes member)

/-- The name of the other task event has a letter that the name looked for lacks. -/
theorem Action.Refused.of_both {field : List Char}
    (solve : Event.solveTask.name.toList <:+: field)
    (done : Event.doneTask.name.toList <:+: field)
    : Refused field := by
  have named : Event.solveTask.NamedIn field :=
    .solveTask ((occurs_iff_within (by decide)).mpr solve)
  have member : 'D' ∈ field := done.subset (by decide)
  obtain ⟨count, strewn, -⟩ := strewn_without named.name_ne_nil field
  have left : 'D' ∈ Event.solveTask.restOf field :=
    (strewn.mem_or_mem member).resolve_left (by decide)
  exact named.refused left (by decide)

/-- A field that holds the name of a task event names it, unless it holds both names. -/
theorem Event.namedIn_or_both {event : Event} {field : List Char}
    (isTask : event.isTask = true) (stands : event.name.toList <:+: field)
    : event.NamedIn field
      ∨ (Event.solveTask.name.toList <:+: field ∧ Event.doneTask.name.toList <:+: field) := by
  cases event with
  | solveTask => exact .inl (.solveTask ((occurs_iff_within (by decide)).mpr stands))
  | doneTask =>
      cases other : occurs Event.solveTask.name.toList field with
      | false => exact .inl (.doneTask other ((occurs_iff_within (by decide)).mpr stands))
      | true => exact .inr ⟨(occurs_iff_within (by decide)).mp other, stands⟩
  | login | downloadPlugin | writeMessage | unknown => cases isTask

/-- What event fields say about tasks. -/
structure Action.TellsTask (field : List Char) : Prop where
  written
    : ∀ (event : Event) (task : TaskId) (front gap literal back : List Char),
        event.isTask = true
        → (∀ c ∈ front ++ gap ++ back, isBlank c = true)
        → WritesInt32 task literal
        → field = front ++ event.name.toList ++ gap ++ literal ++ back
        → read? field = some (ofEvent event (some task))
  madeUp
    : ∀ action,
        read? field = some action
        → action.event.isTask = true
        → ∃ count rest,
            0 < count
            ∧ Strewn action.event.name.toList count field rest
            ∧ (∀ c ∈ rest, BesideName c)
            ∧ rest.countP isSign ≤ 1
  both
    : Event.solveTask.name.toList <:+: field
      → Event.doneTask.name.toList <:+: field
      → Refused field
  strange
    : ∀ (event : Event) (front : List Char) (c : Char) (back : List Char),
        event.isTask = true
        → event.name.toList <:+: field
        → field = front ++ c :: back
        → Outside event.name.toList front c back
        → ¬BesideName c
        → Refused field

/-- A name with a number behind it is read as its task event. What is read as a task event is made
of copies of its name, white space, digits and one sign at most; so the names of both task events,
or anything else outside the occurrences of a name, keep a field from being read.
-/
theorem Action.tellsTask (field : List Char) : TellsTask field := by
  refine
    {
      written := fun event task front gap literal back isTask blank writes split => ?_,
      madeUp := fun action read isTask => ?_,
      both := Refused.of_both,
      strange := fun event front c back isTask stands split outside strange => ?_,
    }
  · rw [split]
    exact (read?_numbered_iff isTask).mpr (.of_written blank writes)
  · obtain ⟨task, -, @⟨count, rest, named, strewn, writes⟩⟩ := exists_numberedIn read isTask
    refine ⟨count, rest, named, strewn, fun c => besideName_of_writesInt32 writes, ?_⟩
    rw [← countP_isSign_glued]
    exact countP_isSign_le_one writes
  · rcases Event.namedIn_or_both isTask stands with named | both
    · subst split
      exact named.refused (outside.mem_without named.name_ne_nil) strange
    · exact .of_both both.1 both.2

/-- A name that only comes together when another is taken out is not taken for one. -/
example : Action.read? "SOLVESOLVE_TASK_TASK 5".toList = none := by decide +kernel

end Logbook
