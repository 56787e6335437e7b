import Logbook.Ranked

/-! The kinds of events that a log reports, and their names. -/

namespace Logbook

/-- The kinds of events, in the order in which answers list them. -/
inductive Event where
  | login
  | downloadPlugin
  | writeMessage
  | solveTask
  | doneTask
  | unknown
deriving DecidableEq, Repr

namespace Event

/-- The place of a kind in the listing order. -/
def rank : Event → Nat
  | login => 0
  | downloadPlugin => 1
  | writeMessage => 2
  | solveTask => 3
  | doneTask => 4
  | unknown => 5

/-- Every kind, in listing order. -/
def all : List Event := [login, downloadPlugin, writeMessage, solveTask, doneTask, unknown]

/-- The name of a kind in log lines, queries and answers. -/
def name : Event → String
  | login => "LOGIN"
  | downloadPlugin => "DOWNLOAD_PLUGIN"
  | writeMessage => "WRITE_MESSAGE"
  | solveTask => "SOLVE_TASK"
  | doneTask => "DONE_TASK"
  | unknown => "UNKNOWN"

/-- The kind with this name; the unknown kind has none that can be asked for. -/
def ofName? (name : String) : Option Event :=
  all.find? fun event => event != unknown && event.name == name

/-- Events about a task carry its number. -/
def isTask (event : Event) : Bool := event == solveTask || event == doneTask

theorem rank_inj {a b : Event} : a.rank = b.rank ↔ a = b := by
  cases a <;> cases b <;> decide

instance : Ranked Event := { rank := fun a => a.rank, rank_inj := fun h => rank_inj.mp (by omega) }

end Event

end Logbook
