import Logbook.Proofs.Entry.LineRoundTrip

/-! Task numbers in event fields.
The number of a task is written by what is left of its field without the name and all white space.
So it is the trimmed rest of the field where that is in one piece, while the pieces of a number are
put together across the white space between them.
-/

namespace Logbook

open Text

/-- What a field holds beside the name of an event. -/
def Event.restOf (event : Event) (field : List Char) : List Char :=
  without event.name.toList field

/-- A text without any of its white space. -/
def glued (text : List Char) : List Char := text.filter fun c => !isBlank c

/-- White space at the ends makes no difference to a text that is in one piece. -/
theorem glued_eq_trim {text : List Char} (piece : ∀ c ∈ trim text, isBlank c = false)
    : glued text = trim text := by
  rw [glued, ← filter_trim]
  apply List.filter_eq_self.mpr
  intro c member
  rw [piece c member]
  rfl

-----------------------------------------------------------------------------------------
-- The field of a task event
-----------------------------------------------------------------------------------------

theorem Action.taskBeside?_eq_some_iff {event : Event} {field : List Char} {task : TaskId}
    : taskBeside? event.name field = some task ↔ WritesInt32 task (glued (event.restOf field)) :=
  int32?_eq_some_iff

/-- A field that names a task event has no reading when the rest of it writes no number. -/
theorem Event.NamedIn.read?_eq_none_iff {event : Event} {field : List Char}
    (named : event.NamedIn field)
    : Action.read? field = none ↔ ∀ task, ¬WritesInt32 task (glued (event.restOf field)) := by
  rw [named.read?_eq, Option.map_eq_none_iff, Option.eq_none_iff_forall_ne_some]
  exact forall_congr' fun task => not_congr Action.taskBeside?_eq_some_iff

/-- A number is read only from a field that names its event. -/
theorem Event.namedIn_of_read? {field : List Char} {action : Action} {task : TaskId}
    (read : Action.read? field = some action) (numbered : action.task? = some task)
    : action.event.NamedIn field := by
  cases Action.readAs_of_read? read with
  | @named event _ named _ =>
      rw [Action.event_ofEvent]
      exact named
  | other => simp [Action.task?_ofEvent] at numbered

namespace Entry

/-- The line is read as the event with the number that the text writes, and is refused for its event
field when the text writes none.
-/
structure TakesTaskFrom (text : List Char) (limit : Nat) (line : String) (event : Event)
    (field : List Char)
    : Prop where
  numbered
    : ∀ task,
        (∃ entry, ofLine limit line = .ok entry ∧ entry.event = event ∧ entry.task? = some task)
        ↔ WritesInt32 task text
  refused
    : (∀ task, ¬WritesInt32 task text)
      → ofLine limit line = .error (.malformedTask (String.ofList field))

section Line

variable {limit : Nat} {line : String} {address user time field status : List Char}

/-- The number of a task event is always taken from the rest of its field without white space. -/
theorem takesTaskFrom_glued (fits : line.utf8ByteSize ≤ limit)
    (fields : fieldsOfLine line.toList = [address, user, time, field, status]) {event : Event}
    (named : event.NamedIn field)
    : TakesTaskFrom (glued (event.restOf field)) limit line event field := by
  have read := ofLine_of_fields fits fields
  have written {task : TaskId}
      : Action.taskBeside? event.name field = some task
        ↔ WritesInt32 task (glued (event.restOf field)) :=
    Action.taskBeside?_eq_some_iff
  rw [named.read?_eq] at read
  cases beside : Action.taskBeside? event.name field with
  | none =>
      rw [beside] at read
      refine { numbered := fun task => ⟨?_, ?_⟩, refused := fun _ => read }
      · rintro ⟨entry, taken, -⟩
        rw [read] at taken
        cases taken
      · intro writes
        rw [written.mpr writes] at beside
        cases beside
  | some found =>
      rw [beside] at read
      have number : (Action.ofEvent event (some found)).task? = some found := by
        rw [Action.task?_ofEvent, if_pos named.isTask]
      refine { numbered := fun task => ⟨?_, ?_⟩, refused := ?_ }
      · rintro ⟨entry, taken, -, numbered⟩
        rw [read] at taken
        cases taken
        obtain rfl := Option.some.inj (number.symm.trans numbered)
        exact written.mp beside
      · intro writes
        obtain rfl := Option.some.inj (beside.symm.trans (written.mpr writes))
        exact ⟨_, read, Action.event_ofEvent event _, number⟩
      · intro none_written
        exact absurd (written.mp beside) (none_written found)

/-- A number is taken only from a line whose event field names its event. -/
theorem namedIn_of_task? (fits : line.utf8ByteSize ≤ limit)
    (fields : fieldsOfLine line.toList = [address, user, time, field, status]) {entry : Entry}
    {task : TaskId} (read : ofLine limit line = .ok entry) (numbered : entry.task? = some task)
    : entry.event.NamedIn field := by
  rw [ofLine_of_fields fits fields] at read
  cases taken : Action.read? field with
  | none =>
      rw [taken] at read
      cases read
  | some action =>
      rw [taken] at read
      cases read
      exact Event.namedIn_of_read? taken numbered

/-- A number that the trimmed rest writes is also written by the rest without white space. -/
theorem writesInt32_glued {task : TaskId} {rest : List Char} (h : WritesInt32 task (trim rest))
    : WritesInt32 task (glued rest) := by
  rw [glued_eq_trim fun c member => h.isBlank_eq_false member]
  exact h

/-- The number of a task event is what the rest of its field without all white space writes. It is
what the trimmed rest writes exactly when that is in one piece or no number is put together from
its pieces.
-/
theorem task_taken_from_rest (fits : line.utf8ByteSize ≤ limit)
    (fields : fieldsOfLine line.toList = [address, user, time, field, status])
    : (∀ entry task,
        ofLine limit line = .ok entry → entry.task? = some task → entry.event.NamedIn field)
      ∧ ∀ event : Event,
          event.NamedIn field
          → let rest := event.restOf field
            TakesTaskFrom (glued rest) limit line event field
            ∧ (TakesTaskFrom (trim rest) limit line event field
              ↔ (∀ c ∈ trim rest, isBlank c = false) ∨ ∀ task, ¬WritesInt32 task (glued rest)) := by
  refine ⟨fun entry task read numbered => namedIn_of_task? fits fields read numbered, ?_⟩
  intro event named rest
  have taken := takesTaskFrom_glued fits fields named
  refine ⟨taken, ?_, ?_⟩
  · intro trimmed
    by_cases writes : ∃ task, WritesInt32 task (glued rest)
    · obtain ⟨task, writes⟩ := writes
      have piece := (trimmed.numbered task).mp ((taken.numbered task).mpr writes)
      exact .inl fun c member => piece.isBlank_eq_false member
    · exact .inr (not_exists.mp writes)
  · rintro (piece | none_written)
    · rw [← glued_eq_trim piece]
      exact taken
    · refine { numbered := fun task => ⟨?_, ?_⟩, refused := fun _ => taken.refused none_written }
      · intro read
        exact absurd ((taken.numbered task).mp read) (none_written task)
      · intro writes
        exact absurd (writesInt32_glued writes) (none_written task)

end Line

/-- A sign and digits with white space around them are one piece, and a number. -/
theorem task_taken_from_rest_signed
    : let line := "a\tb\t\t \u00a0SOLVE_TASK\u2003-007 \tOK"
      let field := " \u00a0SOLVE_TASK\u2003-007 ".toList
      line.utf8ByteSize ≤ 99
      ∧ fieldsOfLine line.toList = [['a'], ['b'], [], field, ['O', 'K']]
      ∧ Event.solveTask.NamedIn field
      ∧ TakesTaskFrom "-007".toList 99 line .solveTask field := by
  intro line field
  have fits : line.utf8ByteSize ≤ 99 := by decide +kernel
  have fields : fieldsOfLine line.toList = [['a'], ['b'], [], field, ['O', 'K']] := by
    decide +kernel
  have named : Event.solveTask.NamedIn field := .solveTask (by decide +kernel)
  have rest : trim (Event.solveTask.restOf field) = "-007".toList := by decide +kernel
  have piece : ∀ c ∈ "-007".toList, isBlank c = false := by simp [isBlank]
  obtain ⟨-, exact_when⟩ := (task_taken_from_rest fits fields).2 _ named
  rw [rest] at exact_when
  exact ⟨fits, fields, named, exact_when.mpr (.inl piece)⟩

/-- Two numbers between which white space stands are put together as one. The rest of the field is
no number, but the line is read.
-/
theorem task_glued_from_two_numbers
    : let line := "127.0.0.1\tAmigo\t9.6.2013 12:22:51\tSOLVE_TASK 1 8\tOK"
      let field := "SOLVE_TASK 1 8".toList
      let rest := trim (Event.solveTask.restOf field)
      rest = "1 8".toList
      ∧ (∀ task, ¬WritesInt32 task rest)
      ∧ (∃ entry,
          ofLine 99 line = .ok entry ∧ entry.event = .solveTask ∧ entry.task? = some 18)
      ∧ ¬TakesTaskFrom rest 99 line .solveTask field := by
  intro line field rest
  have same : rest = "1 8".toList := by decide +kernel
  have none_written (task : TaskId) : ¬WritesInt32 task rest := by
    intro writes
    have blank := writes.isBlank_eq_false (c := ' ') (by rw [same]; decide)
    cases blank
  let entry : Entry :=
    {
      address := "127.0.0.1",
      user := "Amigo",
      time := Instant.ofNumbers? 9 6 2013 12 22 51,
      action := .solveTask (some 18),
      status := .ok,
    }
  have read : ofLine 99 line = .ok entry := by decide +kernel
  refine ⟨same, none_written, ⟨entry, read, rfl, rfl⟩, fun taken => ?_⟩
  exact none_written 18 ((taken.numbered 18).mp ⟨entry, read, rfl, rfl⟩)

end Entry

end Logbook
