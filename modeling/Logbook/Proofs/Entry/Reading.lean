import Logbook.Entry.Line

/-! What lines and their event fields are read as.
The size of a line is looked at first, then the number of its fields and last its event field. The
other fields never keep a line from being read.
-/

namespace Logbook

open Text

-----------------------------------------------------------------------------------------
-- The event field
-----------------------------------------------------------------------------------------

/-- The field holds the name of the task event that it is taken for: solving is looked for first. -/
inductive Event.NamedIn (field : List Char) : Event → Prop
  | solveTask (named : occurs Event.solveTask.name.toList field = true) : NamedIn field .solveTask
  | doneTask (other : occurs Event.solveTask.name.toList field = false)
    (named : occurs Event.doneTask.name.toList field = true)
    : NamedIn field .doneTask

theorem Event.NamedIn.isTask {event : Event} {field : List Char} (h : event.NamedIn field)
    : event.isTask = true := by
  cases h <;> rfl

/-- A field that names a task event is read as that event with the number beside the name. -/
theorem Event.NamedIn.read?_eq {event : Event} {field : List Char} (h : event.NamedIn field)
    : Action.read? field
      = (Action.taskBeside? event.name field).map fun task => .ofEvent event (some task) := by
  cases h with
  | solveTask named =>
      rw [Action.read?, if_pos named]
      rfl
  | doneTask other named =>
      rw [Action.read?, if_neg (by simp [other]), if_pos named]
      rfl

/-- What an event field is read as: the task event that it names, or else the event whose name it
is, without a number.
-/
inductive Action.ReadAs (field : List Char) : Action → Prop
  | named {event : Event} {task : TaskId} (named : event.NamedIn field)
    (beside : taskBeside? event.name field = some task)
    : ReadAs field (.ofEvent event (some task))
  | other (noSolve : occurs Event.solveTask.name.toList field = false)
    (noDone : occurs Event.doneTask.name.toList field = false)
    : ReadAs field (.ofEvent ((Event.ofName? (String.ofList field)).getD .unknown) none)

theorem Action.readAs_of_read? {field : List Char} {action : Action}
    (read : read? field = some action)
    : ReadAs field action := by
  unfold read? at read
  split at read
  · next named =>
      obtain ⟨task, beside, rfl⟩ := Option.map_eq_some_iff.mp read
      exact .named (.solveTask named) beside
  · next noSolve =>
      rw [Bool.not_eq_true] at noSolve
      split at read
      · next named =>
          obtain ⟨task, beside, rfl⟩ := Option.map_eq_some_iff.mp read
          exact .named (.doneTask noSolve named) beside
      · next noDone =>
          obtain rfl := Option.some.inj read
          exact .other noSolve (Bool.eq_false_iff.mpr noDone)

-----------------------------------------------------------------------------------------
-- The line
-----------------------------------------------------------------------------------------

namespace Entry

variable {limit : Nat} {line : String}

theorem ofLine_of_large (large : limit < line.utf8ByteSize)
    : ofLine limit line = .error (.tooLarge line.utf8ByteSize limit) := by
  rw [ofLine, if_pos large]

theorem ofLine_of_length_ne (fits : line.utf8ByteSize ≤ limit)
    (count : (fieldsOfLine line.toList).length ≠ 5)
    : ofLine limit line = .error (.fieldCount 5 (fieldsOfLine line.toList).length) := by
  unfold ofLine
  rw [if_neg (Nat.not_lt.mpr fits)]
  split
  · next fields =>
      rw [fields] at count
      exact absurd rfl count
  · rfl

/-- The event field decides whether a line with five fields is read. -/
theorem ofLine_of_fields {address user time field status : List Char}
    (fits : line.utf8ByteSize ≤ limit)
    (fields : fieldsOfLine line.toList = [address, user, time, field, status])
    : ofLine limit line
      = (Action.read? field).elim (.error (.malformedTask (String.ofList field))) fun action =>
          .ok
            {
              address := String.ofList address,
              user := String.ofList user,
              time := Instant.read? time,
              action,
              status := Status.read status,
            } := by
  cases read : Action.read? field with
  | none => simp only [ofLine, if_neg (Nat.not_lt.mpr fits), fields, read, Option.elim_none]
  | some action => simp only [ofLine, if_neg (Nat.not_lt.mpr fits), fields, read, Option.elim_some]

/-- What a line is read as, with the reason for it. -/
inductive ReadAs (limit : Nat) (line : String) : Except Fault Entry → Prop
  | tooLarge (large : limit < line.utf8ByteSize)
    : ReadAs limit line (.error (.tooLarge line.utf8ByteSize limit))
  | fieldCount (fits : line.utf8ByteSize ≤ limit)
    (others : ∀ address user time field status,
      fieldsOfLine line.toList ≠ [address, user, time, field, status])
    : ReadAs limit line (.error (.fieldCount 5 (fieldsOfLine line.toList).length))
  | malformedTask {address user time field status : List Char} (fits : line.utf8ByteSize ≤ limit)
    (fields : fieldsOfLine line.toList = [address, user, time, field, status])
    (unread : Action.read? field = none)
    : ReadAs limit line (.error (.malformedTask (String.ofList field)))
  | entry {address user time field status : List Char} {action : Action}
    (fits : line.utf8ByteSize ≤ limit)
    (fields : fieldsOfLine line.toList = [address, user, time, field, status])
    (read : Action.read? field = some action)
    : ReadAs limit line
        (.ok
          {
            address := String.ofList address,
            user := String.ofList user,
            time := Instant.read? time,
            action,
            status := Status.read status,
          })

theorem readAs_ofLine (limit : Nat) (line : String) : ReadAs limit line (ofLine limit line) := by
  unfold ofLine
  split
  · next large => exact .tooLarge large
  · next small =>
      have fits := Nat.not_lt.mp small
      split
      · next address user time field status fields =>
          split
          · next unread => exact .malformedTask fits fields unread
          · next action read => exact .entry fits fields read
      · next others => exact .fieldCount fits others

end Entry

end Logbook
