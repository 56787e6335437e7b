import Logbook.Criteria
import Logbook.Distinct
import Logbook.Entry.Line

/-! Archives of entries, and the values found in those that meet given criteria. -/

namespace Logbook

/-- The entries of a log, in the order in which they were read. -/
structure Archive where
  entries : List Entry := []
deriving DecidableEq

namespace Archive

/-- The entries of the lines that hold one; other lines are passed over. -/
def ofLines (lines : List String) : Archive :=
  { entries := lines.filterMap fun line => (Entry.ofLine Entry.defaultLimit line).toOption }

/-- How many entries there are. -/
def size (archive : Archive) : Nat := archive.entries.length

/-- The entries that meet the criteria, in order. -/
def select (archive : Archive) (criteria : Criteria) : List Entry :=
  archive.entries.filter criteria.admits

/-- How many entries meet the criteria. -/
def count (archive : Archive) (criteria : Criteria) : Nat := (archive.select criteria).length

section Values

variable {α : Type} [LE α] [DecidableLE α] [DecidableEq α]

/-- The distinct values that the entries meeting the criteria take. -/
def valuesOf (archive : Archive) (criteria : Criteria) (value : Entry → α) : List α :=
  distinct ((archive.select criteria).map value)

end Values

/-- The distinct times of the entries that meet the criteria and have one. -/
def timesOf (archive : Archive) (criteria : Criteria) : List Instant :=
  distinct ((archive.select criteria).filterMap Entry.time)

/-- The earliest time of an entry that meets the criteria. -/
def firstTime? (archive : Archive) (criteria : Criteria) : Option Instant :=
  ((archive.select criteria).filterMap Entry.time).min?

end Archive

end Logbook
