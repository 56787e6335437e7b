import Logbook.Ranked

/-! The outcomes of events, and their names. -/

namespace Logbook

/-- How an event went, in the order in which answers list the outcomes. -/
inductive Status where
  | ok
  | failed
  | error
  | unknown
deriving DecidableEq, Repr

namespace Status

/-- The place of an outcome in the listing order. -/
def rank : Status → Nat
  | ok => 0
  | failed => 1
  | error => 2
  | unknown => 3

/-- Every outcome, in listing order. -/
def all : List Status := [ok, failed, error, unknown]

/-- The name of an outcome in log lines, queries and answers. -/
def name : Status → String
  | ok => "OK"
  | failed => "FAILED"
  | error => "ERROR"
  | unknown => "UNKNOWN"

/-- The outcome with this name; the unknown outcome has none that can be asked for. -/
def ofName? (name : String) : Option Status :=
  all.find? fun status => status != unknown && status.name == name

theorem rank_inj {a b : Status} : a.rank = b.rank ↔ a = b := by
  cases a <;> cases b <;> decide

instance : Ranked Status := { rank := fun a => a.rank, rank_inj := fun h => rank_inj.mp (by omega) }

end Status

end Logbook
