import Logbook.Entry
import Logbook.Text.Occurrence
import Logbook.Text.Quoted
import Logbook.Text.Utf8

/-! Entries as lines of five fields between tabs.
The reader is lenient about times and names it does not know and strict about the number of fields
and the task numbers.
-/

namespace Logbook

open Text

/-- An action as the event field writes it: the name and, behind a space, the task. -/
def Action.text (action : Action) : List Char :=
  action.event.name.toList
    ++ match action.task? with
      | none => []
      | some task => ' ' :: signedDigits task.toInt

/-- The number that is left of an event field once `name` and all white space are taken out. -/
def Action.taskBeside? (name : String) (field : List Char) : Option TaskId :=
  int32? ((without name.toList field).filter fun c => !isBlank c)

/-- Reads an event field. A field that holds the name of a task event needs a task number beside
it, and has no reading without one.
-/
def Action.read? (field : List Char) : Option Action :=
  if occurs Event.solveTask.name.toList field then
    (taskBeside? Event.solveTask.name field).map fun task => solveTask (some task)
  else if occurs Event.doneTask.name.toList field then
    (taskBeside? Event.doneTask.name field).map fun task => doneTask (some task)
  else
    some (ofEvent ((Event.ofName? (String.ofList field)).getD .unknown) none)

/-- Reads a status field; a name that is none stands for the unknown outcome. -/
def Status.read (field : List Char) : Status := (ofName? (String.ofList field)).getD .unknown

namespace Entry

/-- The five fields of an entry. -/
def fields (entry : Entry) : List (List Char) :=
  [
    entry.address.toList,
    entry.user.toList,
    (entry.time.map Instant.text).getD [],
    entry.action.text,
    entry.status.name.toList
  ]

/-- How many fields the line of an entry has. -/
def fieldNumber : Nat := 5

/-- The line of an entry. -/
def line (entry : Entry) : String := String.ofList (['\t'].intercalate entry.fields)

/-- Why a line is no entry. -/
inductive Fault where
  | tooLarge (size limit : Nat)
  | fieldCount (expected found : Nat)
  | malformedTask (field : String)
deriving DecidableEq, Repr

/-- What is said about a line that is no entry. -/
def Fault.message : Fault → String
  | tooLarge size limit => s!"Line too large: {size} bytes (max: {limit} bytes)"
  | fieldCount expected found =>
      s!"Expected {expected} tab-separated fields, found {found}"
  | malformedTask field => "Invalid task id in event field: " ++ quoted field

/-- The fields of a line. Tabs at its end are not followed by fields. -/
def fieldsOfLine (line : List Char) : List (List Char) :=
  dropTrailing List.isEmpty (line.splitOn '\t')

/-- Reads the entry of a line of at most `limit` bytes. -/
def ofLine (limit : Nat) (line : String) : Except Fault Entry :=
  if limit < line.utf8ByteSize then
    .error (.tooLarge line.utf8ByteSize limit)
  else
    match fieldsOfLine line.toList with
    | [address, user, time, event, status] =>
        match Action.read? event with
        | none => .error (.malformedTask (String.ofList event))
        | some action =>
            .ok
              {
                address := String.ofList address,
                user := String.ofList user,
                time := Instant.read? time,
                action,
                status := Status.read status,
              }
    | found => .error (.fieldCount fieldNumber found.length)

/-- The largest line that is read when nothing else is asked for, one mebibyte. -/
def defaultLimit : Nat := 1048576

end Entry

end Logbook
