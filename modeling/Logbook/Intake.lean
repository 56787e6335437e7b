import Logbook.Archive
import Logbook.Source

/-! Taking in log lines: entries are stored, lines that hold none are counted by their fault.
A task event without a number can be made to interrupt the intake, which then names the place.
-/

namespace Logbook

/-- What to do about a task event without a task number. -/
inductive Policy where
  | skip
  | abort
deriving DecidableEq, Repr

namespace Policy

/-- The word for a policy in settings. -/
def name : Policy → String
  | skip => "skip"
  | abort => "abort"

/-- The policy that a word names. -/
def ofName? (word : String) : Option Policy := [skip, abort].find? (·.name == word)

end Policy

/-- What has been counted so far. -/
structure Counts where
  filesRead : Nat := 0
  filesFailed : Nat := 0
  linesRead : Nat := 0
  stored : Nat := 0
  wrongFieldCount : Nat := 0
  tooLarge : Nat := 0
  malformedTask : Nat := 0
deriving DecidableEq, Repr

namespace Counts

/-- How many lines held no entry and were passed over. -/
def skipped (counts : Counts) : Nat :=
  counts.wrongFieldCount + counts.tooLarge + counts.malformedTask

/-- Counts a line that is passed over for its fault. -/
def skip (counts : Counts) : Entry.Fault → Counts
  | .fieldCount .. => { counts with wrongFieldCount := counts.wrongFieldCount + 1 }
  | .tooLarge _ _ => { counts with tooLarge := counts.tooLarge + 1 }
  | .malformedTask _ => { counts with malformedTask := counts.malformedTask + 1 }

end Counts

/-- An intake was interrupted by a task event without a task number. -/
structure Interruption where
  source : String
  line : Nat
  field : String
deriving DecidableEq, Repr

/-- What is said about an interruption. -/
def Interruption.message (stop : Interruption) : String :=
  stop.source ++ s!":{stop.line}: invalid task id in event field " ++ Text.quoted stop.field

/-- What an intake can be fed: a source, a single line, or the path of a file that is not there. -/
inductive Feed where
  | source (source : Source)
  | line (source : String) (number : Nat) (line : String)
  | missing (path : String)
deriving DecidableEq

/-- Entries on their way into an archive. -/
structure Intake where
  policy : Policy := .skip
  limit : Nat := Entry.defaultLimit
  entries : Array Entry := #[]
  counts : Counts := {}
deriving DecidableEq

namespace Intake

/-- Counts a line as read. -/
def countLine (intake : Intake) : Intake :=
  { intake with counts.linesRead := intake.counts.linesRead + 1 }

/-- Stores an entry. -/
def store (intake : Intake) (entry : Entry) : Intake :=
  {
    intake with
    entries := intake.entries.push entry,
    counts.stored := intake.counts.stored + 1,
  }

/-- Passes over a line for its fault. -/
def skip (intake : Intake) (fault : Entry.Fault) : Intake :=
  { intake with counts := intake.counts.skip fault }

/-- Counts a file that was read to its end. -/
def countFile (intake : Intake) : Intake :=
  { intake with counts.filesRead := intake.counts.filesRead + 1 }

/-- Counts a file that could not be read, or not to its end. -/
def failFile (intake : Intake) : Intake :=
  { intake with counts.filesFailed := intake.counts.filesFailed + 1 }

/-- Takes in one line of a named source. -/
def takeLine (intake : Intake) (source : String) (number : Nat) (line : String)
    : Intake × Option Interruption :=
  let intake := intake.countLine
  match Entry.ofLine intake.limit line with
  | .ok entry => (intake.store entry, none)
  | .error (.malformedTask field) =>
      match intake.policy with
      | .skip => (intake.skip (.malformedTask field), none)
      | .abort => (intake, some { source, line := number, field })
  | .error fault => (intake.skip fault, none)

/-- Takes in the lines of a named source from a line number on, up to an interruption. -/
def takeLines (intake : Intake) (source : String) (number : Nat)
    : List String → Intake × Option Interruption
  | [] => (intake, none)
  | line :: rest =>
      match intake.takeLine source number line with
      | (intake, none) => intake.takeLines source (number + 1) rest
      | stopped => stopped

/-- Takes in a source. It counts as read or as failed unless it interrupts the intake. -/
def takeSource (intake : Intake) (source : Source) : Intake × Option Interruption :=
  match intake.takeLines source.name 1 source.lines with
  | (intake, none) => (if source.breaksOff then intake.failFile else intake.countFile, none)
  | stopped => stopped

/-- Takes in one source after another, up to an interruption. -/
def takeSources (intake : Intake) : List Source → Intake × Option Interruption
  | [] => (intake, none)
  | source :: rest =>
      match intake.takeSource source with
      | (intake, none) => intake.takeSources rest
      | stopped => stopped

/-- Takes in whatever is fed. A file that cannot be opened is counted and otherwise left out. -/
def take (intake : Intake) : Feed → Intake × Option Interruption
  | .source source => intake.takeSource source
  | .line source number line => intake.takeLine source number line
  | .missing _ => (intake.failFile, none)

/-- The archive of the entries taken in. -/
def archive (intake : Intake) : Archive := { entries := intake.entries.toList }

end Intake

end Logbook
