import Logbook.Event
import Logbook.Instant.Spelling
import Logbook.Status

/-! Entries of an access log: who did what from where, when, and how it went. -/

namespace Logbook

/-- The number of a task. -/
abbrev TaskId := Int32

/-- What a user did. Only the events about a task have room for its number. -/
inductive Action where
  | login
  | downloadPlugin
  | writeMessage
  | solveTask (task : Option TaskId)
  | doneTask (task : Option TaskId)
  | unknown
deriving DecidableEq

namespace Action

/-- The action of an event about a task; other events leave the task out. -/
def ofEvent (event : Event) (task : Option TaskId) : Action :=
  match event with
  | .login => login
  | .downloadPlugin => downloadPlugin
  | .writeMessage => writeMessage
  | .solveTask => solveTask task
  | .doneTask => doneTask task
  | .unknown => unknown

/-- The kind of event that an action is. -/
def event : Action → Event
  | login => .login
  | downloadPlugin => .downloadPlugin
  | writeMessage => .writeMessage
  | solveTask _ => .solveTask
  | doneTask _ => .doneTask
  | unknown => .unknown

/-- The task that an action is about, where it names one. -/
def task? : Action → Option TaskId
  | solveTask task | doneTask task => task
  | _ => none

@[simp]
theorem ofEvent_event_task? (action : Action)
    : ofEvent action.event action.task? = action := by
  cases action <;> rfl

@[simp]
theorem event_ofEvent (event : Event) (task : Option TaskId)
    : (ofEvent event task).event = event := by
  cases event <;> rfl

theorem task?_ofEvent (event : Event) (task : Option TaskId)
    : (ofEvent event task).task? = if event.isTask then task else none := by
  cases event <;> rfl

end Action

/-- One line of an access log. -/
structure Entry where
  address : String
  user : String
  time : Option Instant
  action : Action
  status : Status
deriving DecidableEq

namespace Entry

/-- The kind of event that an entry reports. -/
def event (entry : Entry) : Event := entry.action.event

/-- The task that an entry is about, where it names one. -/
def task? (entry : Entry) : Option TaskId := entry.action.task?

end Entry

end Logbook
