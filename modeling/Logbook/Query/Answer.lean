import Logbook.Archive
import Logbook.Query.Parse

/-! Answers to queries: the distinct values of the selected attribute. -/

namespace Logbook

/-- The values that a query asked for, each once and in ascending order. -/
inductive Answer where
  | texts (values : List String)
  | times (values : List Instant)
  | events (values : List Event)
  | statuses (values : List Status)
deriving DecidableEq

namespace Answer

/-- How many values there are. -/
def size : Answer → Nat
  | texts values => values.length
  | times values => values.length
  | events values => values.length
  | statuses values => values.length

/-- The values as log lines write them. -/
def lines : Answer → List String
  | texts values => values
  | times values => values.map fun t => String.ofList t.text
  | events values => values.map Event.name
  | statuses values => values.map Status.name

end Answer

namespace Archive

/-- The answer to a query. -/
def answer (archive : Archive) (query : Query) : Answer :=
  match query.select with
  | .address => .texts (archive.valuesOf query.criteria Entry.address)
  | .user => .texts (archive.valuesOf query.criteria Entry.user)
  | .time => .times (archive.timesOf query.criteria)
  | .event => .events (archive.valuesOf query.criteria Entry.event)
  | .status => .statuses (archive.valuesOf query.criteria Entry.status)

/-- The answer to a query text. -/
def ask (archive : Archive) (text : String) : Except Query.Error Answer :=
  (Query.parse text).map archive.answer

end Archive

end Logbook
