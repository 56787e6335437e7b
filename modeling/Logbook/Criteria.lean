import Logbook.Entry
import Logbook.Window

/-! Criteria on entries. An entry matches when it meets every criterion that is given. -/

namespace Logbook

namespace Entry

/-- The entry came from this address. -/
def isFrom (entry : Entry) (address : String) : Bool := entry.address == address

/-- The entry is about this user. -/
def isBy (entry : Entry) (user : String) : Bool := entry.user == user

/-- The entry reports this kind of event. -/
def isEvent (entry : Entry) (event : Event) : Bool := entry.event == event

/-- The entry had this outcome. -/
def hasStatus (entry : Entry) (status : Status) : Bool := entry.status == status

/-- The entry is about this task. -/
def isAbout (entry : Entry) (task : TaskId) : Bool := entry.task? == some task

/-- The entry has exactly this time. -/
def isAt (entry : Entry) (time : Instant) : Bool := entry.time == some time

/-- The entry has a time inside the window. -/
def isWithin (entry : Entry) (window : Window) : Bool := window.contains entry.time

end Entry

/-- What is asked of an entry; a criterion left out admits every entry. -/
structure Criteria where
  address : Option String := none
  user : Option String := none
  event : Option Event := none
  status : Option Status := none
  task : Option TaskId := none
  time : Option Instant := none
  window : Option Window := none

namespace Criteria

/-- The entry meets every criterion that is given. -/
def admits (criteria : Criteria) (entry : Entry) : Bool :=
  criteria.address.all entry.isFrom && criteria.user.all entry.isBy
    && criteria.event.all entry.isEvent && criteria.status.all entry.hasStatus
    && criteria.task.all entry.isAbout && criteria.time.all entry.isAt
    && criteria.window.all entry.isWithin

end Criteria

end Logbook
