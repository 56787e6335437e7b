import Logbook.Criteria

/-! Queries: which attribute of the entries is asked for, and of which entries. -/

namespace Logbook

/-- An attribute of entries that a query can name. -/
inductive Attribute where
  | address
  | user
  | time
  | event
  | status
deriving DecidableEq, Repr

namespace Attribute

/-- Every attribute. -/
def all : List Attribute := [address, user, time, event, status]

/-- The word that names an attribute in a query. -/
def keyword : Attribute → String
  | address => "ip"
  | user => "user"
  | time => "date"
  | event => "event"
  | status => "status"

/-- The attribute that a word names. -/
def ofKeyword? (word : String) : Option Attribute := all.find? (·.keyword == word)

end Attribute

/-- An attribute has a given value. -/
inductive Condition where
  | address (address : String)
  | user (user : String)
  | time (time : Instant)
  | event (event : Event)
  | status (status : Status)
deriving DecidableEq

namespace Condition

/-- The attribute that a condition is about. -/
def about : Condition → Attribute
  | address _ => .address
  | user _ => .user
  | time _ => .time
  | event _ => .event
  | status _ => .status

/-- A condition among the criteria on entries. -/
def criteria : Condition → Criteria
  | address value => { address := some value }
  | user value => { user := some value }
  | time value => { time := some value }
  | event value => { event := some value }
  | status value => { status := some value }

end Condition

/-- A question about an archive. Without a window it is also about entries without a time. -/
structure Query where
  select : Attribute
  condition : Option Condition := none
  window : Option Window := none
deriving DecidableEq

namespace Query

/-- The criteria that an entry meets when the query is about it. -/
def criteria (query : Query) : Criteria :=
  {
    (query.condition.map Condition.criteria).getD {} with
    window := query.window,
  }

end Query

end Logbook
