import Logbook.Catalog
import Logbook.Report.Json

/-! The headline figures of an archive. -/

namespace Logbook

/-- How much an archive holds, and of what. -/
structure Summary where
  entries : Nat
  addresses : Nat
  users : List String
  events : List Event
  solved : Tally
  done : Tally
deriving DecidableEq

/-- The headline figures of an archive. All but the entries and the users leave out what has no
time.
-/
def Archive.summary (archive : Archive) : Summary :=
  {
    entries := archive.size,
    addresses := archive.addressCount .unbounded,
    users := archive.allUsers,
    events := archive.events .unbounded,
    solved := archive.solveTally .unbounded,
    done := archive.doneTally .unbounded,
  }

namespace Summary

/-- A task as a text. -/
def taskText (task : TaskId) : String := String.ofList (Text.signedDigits task.toInt)

/-- A tally on one line. -/
def tallyText (tally : Tally) : String :=
  ", ".intercalate (tally.map fun (task, count) => taskText task ++ s!"={count}")

/-- The figures as six lines. -/
def plain (summary : Summary) : String :=
  "\n".intercalate
    [
      s!"records:      {summary.entries}",
      s!"unique ips:   {summary.addresses}",
      "users:        " ++ ", ".intercalate summary.users,
      "events:       " ++ ", ".intercalate (summary.events.map Event.name),
      "solved tasks: " ++ tallyText summary.solved,
      "done tasks:   " ++ tallyText summary.done
    ]

/-- A tally as a JSON object. -/
def tallyJson (tally : Tally) : List String :=
  Json.object (tally.map fun (task, count) => Json.member (taskText task) [toString count])

/-- The figures as a JSON object. -/
def json (summary : Summary) : String :=
  Json.text
    (Json.object
      [
        Json.member "records" [toString summary.entries],
        Json.member "unique_ips" [toString summary.addresses],
        Json.member "users" (Json.array (summary.users.map fun user => [Json.string user])),
        Json.member "events"
          (Json.array (summary.events.map fun event => [Json.string event.name])),
        Json.member "solved_tasks" (tallyJson summary.solved),
        Json.member "done_tasks" (tallyJson summary.done)
      ])

/-- The figures in the form asked for. -/
def render (summary : Summary) (asJson : Bool) : String :=
  if asJson then summary.json else summary.plain

end Summary

end Logbook
