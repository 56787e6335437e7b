import Logbook.Archive
import Logbook.Tally

/-! The fixed questions that an archive answers about a window of time.
An entry without a time is in no window, so it counts for none of these except `allUsers`.
-/

namespace Logbook.Archive

variable (archive : Archive)

/-! ### Addresses -/

/-- The addresses that entries came from. -/
def addresses (window : Window) : List String :=
  archive.valuesOf { window := some window } Entry.address

/-- How many different addresses entries came from. -/
def addressCount (window : Window) : Nat := (archive.addresses window).length

/-- The addresses that a user came from. -/
def addressesOfUser (user : String) (window : Window) : List String :=
  archive.valuesOf { user := some user, window := some window } Entry.address

/-- The addresses that an event was reported from. -/
def addressesOfEvent (event : Event) (window : Window) : List String :=
  archive.valuesOf { event := some event, window := some window } Entry.address

/-- The addresses that an outcome was reported from. -/
def addressesOfStatus (status : Status) (window : Window) : List String :=
  archive.valuesOf { status := some status, window := some window } Entry.address

/-! ### Users -/

/-- Every user of the archive, whatever the time. -/
def allUsers : List String := archive.valuesOf {} Entry.user

/-- How many different users were active. -/
def userCount (window : Window) : Nat :=
  (archive.valuesOf { window := some window } Entry.user).length

/-- The users that came from an address. -/
def usersAt (address : String) (window : Window) : List String :=
  archive.valuesOf { address := some address, window := some window } Entry.user

/-- The users that an event was reported of. -/
def usersOfEvent (event : Event) (window : Window) : List String :=
  archive.valuesOf { event := some event, window := some window } Entry.user

/-- The users that logged in. -/
def loggedInUsers (window : Window) : List String := archive.usersOfEvent .login window

/-- The users that downloaded the plugin. -/
def downloadingUsers (window : Window) : List String :=
  archive.usersOfEvent .downloadPlugin window

/-- The users that wrote a message. -/
def writingUsers (window : Window) : List String := archive.usersOfEvent .writeMessage window

/-- The users that attempted some task. -/
def solvingUsers (window : Window) : List String := archive.usersOfEvent .solveTask window

/-- The users that completed some task. -/
def doneUsers (window : Window) : List String := archive.usersOfEvent .doneTask window

/-- The users that attempted a given task. -/
def solversOf (task : TaskId) (window : Window) : List String :=
  archive.valuesOf
    { event := some .solveTask, task := some task, window := some window } Entry.user

/-- The users that completed a given task. -/
def doersOf (task : TaskId) (window : Window) : List String :=
  archive.valuesOf
    { event := some .doneTask, task := some task, window := some window } Entry.user

/-! ### Events -/

/-- The events that were reported. -/
def events (window : Window) : List Event :=
  archive.valuesOf { window := some window } Entry.event

/-- How many different events were reported. -/
def eventCount (window : Window) : Nat := (archive.events window).length

/-- The events that were reported from an address. -/
def eventsAt (address : String) (window : Window) : List Event :=
  archive.valuesOf { address := some address, window := some window } Entry.event

/-- The events that were reported of a user. -/
def eventsOfUser (user : String) (window : Window) : List Event :=
  archive.valuesOf { user := some user, window := some window } Entry.event

/-- How many different events were reported of a user. -/
def eventCountOfUser (user : String) (window : Window) : Nat :=
  (archive.eventsOfUser user window).length

/-- The events that failed. -/
def failedEvents (window : Window) : List Event :=
  archive.valuesOf { status := some .failed, window := some window } Entry.event

/-- The events that ended in an error. -/
def errorEvents (window : Window) : List Event :=
  archive.valuesOf { status := some .error, window := some window } Entry.event

/-! ### Times -/

/-- When an event was reported of a user. -/
def timesOfUserEvent (user : String) (event : Event) (window : Window) : List Instant :=
  archive.timesOf { user := some user, event := some event, window := some window }

/-- When a user wrote messages. -/
def writingTimes (user : String) (window : Window) : List Instant :=
  archive.timesOfUserEvent user .writeMessage window

/-- When a user downloaded the plugin. -/
def downloadTimes (user : String) (window : Window) : List Instant :=
  archive.timesOfUserEvent user .downloadPlugin window

/-- When something failed. -/
def failureTimes (window : Window) : List Instant :=
  archive.timesOf { status := some .failed, window := some window }

/-- When an error happened. -/
def errorTimes (window : Window) : List Instant :=
  archive.timesOf { status := some .error, window := some window }

/-- When a user first logged in. -/
def firstLogin? (user : String) (window : Window) : Option Instant :=
  archive.firstTime? { user := some user, event := some .login, window := some window }

/-- When a user first attempted a task. -/
def firstSolved? (user : String) (task : TaskId) (window : Window) : Option Instant :=
  archive.firstTime?
    {
      user := some user,
      event := some .solveTask,
      task := some task,
      window := some window,
    }

/-- When a user first completed a task. -/
def firstDone? (user : String) (task : TaskId) (window : Window) : Option Instant :=
  archive.firstTime?
    {
      user := some user,
      event := some .doneTask,
      task := some task,
      window := some window,
    }

/-! ### Tasks -/

/-- How many entries report an attempt at a task, repetitions included. -/
def solveCount (task : TaskId) (window : Window) : Nat :=
  archive.count { event := some .solveTask, task := some task, window := some window }

/-- How many entries report the completion of a task, repetitions included. -/
def doneCount (task : TaskId) (window : Window) : Nat :=
  archive.count { event := some .doneTask, task := some task, window := some window }

/-- The tasks that entries of an event are about, with how many there are for each. -/
def tallyOf (event : Event) (window : Window) : Tally :=
  Tally.ofTasks
    ((archive.select { event := some event, window := some window }).filterMap Entry.task?)

/-- The tasks that were attempted, with the number of attempts. -/
def solveTally (window : Window) : Tally := archive.tallyOf .solveTask window

/-- The tasks that were completed, with the number of completions. -/
def doneTally (window : Window) : Tally := archive.tallyOf .doneTask window

end Logbook.Archive
