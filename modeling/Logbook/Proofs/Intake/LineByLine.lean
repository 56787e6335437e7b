import Logbook.Proofs.Intake.Accounting
import Logbook.Proofs.Intake.Contents
import Logbook.Proofs.Source.LineEnds

/-! Lines make up the same archive whichever way they come in: as a list, fed to an intake one by
one, or as the text of a source in which each of them has an end of its own.
-/

namespace Logbook

open Source (EndedLine)
open Text.Utf8

/-- The lines as feeds. The source and the number that a line is fed under depend on its place. -/
def Feed.ofLines (source : Nat → String) (number : Nat → Nat) (lines : List String)
    : List Feed :=
  lines.mapIdx fun place line => .line (source place) (number place) line

theorem Feed.ofLines_cons (source : Nat → String) (number : Nat → Nat) (line : String)
    (rest : List String)
    : ofLines source number (line :: rest)
      = .line (source 0) (number 0) line
        :: ofLines (fun place => source (place + 1)) (fun place => number (place + 1)) rest :=
  List.mapIdx_cons

/-- Every line is counted as read, whatever else it counts for. -/
theorem Counts.linesRead_lines (limit : Nat) (lines : List String)
    : (lines.map (ofLine limit)).sum.linesRead = lines.length :=
  congrArg (fun progress => progress.2.2) (progress_lines limit lines)

namespace Intake

/-- What lines leave that are fed one by one and do not interrupt the intake, by induction on them.
The sources and numbers that they are fed under leave no trace.
-/
theorem session_ofLines {intake : Intake} {lines : List String} (passes : intake.Passes lines)
    (source : Nat → String) (number : Nat → Nat)
    : intake.session (Feed.ofLines source number lines)
      = intake.plus (entriesOf intake.limit lines)
          (lines.map (Counts.ofLine intake.limit)).sum := by
  induction lines generalizing intake source number with
  | nil => exact intake.plus_nil.symm
  | cons line rest ih =>
      obtain ⟨first, later⟩ := passes_cons.mp passes
      rw [Feed.ofLines_cons, session_cons, take, takeLine_eq first, ih (passes_plus.mpr later),
        plus_plus, limit_plus, ← entriesOf_cons, List.map_cons, List.sum_cons]

/-- A source of ended lines is taken in as these lines are one by one, and then counted. -/
theorem takeSource_ended {intake : Intake} {lines : List EndedLine}
    (noLineEnd : ∀ line ∈ lines, NoLineEnd line.text.toList)
    (apart : lines.IsChain EndedLine.KeptApart)
    (passes : intake.Passes (lines.map EndedLine.text)) (name : String) (source : Nat → String)
    (number : Nat → Nat)
    : intake.takeSource { name, bytes := encode (Source.ended lines) }
      = (
          (intake.session (Feed.ofLines source number (lines.map EndedLine.text))).countFile,
          none
        ) := by
  have texts := Source.lines_ended name noLineEnd apart
  have taken := takeLines_eq passes name 1
  rw [session_ofLines passes]
  rw [← texts] at taken
  rw [takeSource_of_takeLines taken, texts]
  rfl

/-- An intake that was fed the lines one by one and one that read them from a source hold the
archive that is made of the lines as a list, and have counted alike.
-/
structure BuiltAlike (lines : List String) (fed read : Intake) : Prop where
  fedArchive : fed.archive = .ofLines lines
  readArchive : read.archive = .ofLines lines
  fedLines : fed.counts.linesRead = lines.length
  readLines : read.counts.linesRead = lines.length
  wrongFieldCount : fed.counts.wrongFieldCount = read.counts.wrongFieldCount
  tooLarge : fed.counts.tooLarge = read.counts.tooLarge
  malformedTask : fed.counts.malformedTask = read.counts.malformedTask

/-- Lines without line ends make up one archive: as a list, fed one by one to an intake that skips,
or read by such an intake from a source in which each is followed by a line end of any kind that is
kept apart from the next.
-/
theorem builds_alike {lines : List EndedLine}
    (noLineEnd : ∀ line ∈ lines, NoLineEnd line.text.toList)
    (apart : lines.IsChain EndedLine.KeptApart) (name : String) (source : Nat → String)
    (number : Nat → Nat)
    : let start : Intake := { policy := .skip, limit := Entry.defaultLimit }
      let feeds := Feed.ofLines source number (lines.map EndedLine.text)
      let read := start.takeSource { name, bytes := encode (Source.ended lines) }
      (∀ step ∈ start.history feeds, step.2 = none)
      ∧ read.2 = none
      ∧ BuiltAlike (lines.map EndedLine.text) (start.session feeds) read.1 := by
  intro start feeds read
  have passes : start.Passes (lines.map EndedLine.text) := passes_of_skip rfl _
  have fed := session_ofLines passes source number
  have taken : read = ((start.session feeds).countFile, none) :=
    takeSource_ended noLineEnd apart passes name source number
  have archive : (start.session feeds).archive = .ofLines (lines.map EndedLine.text) := by
    rw [fed]
    simp [Intake.archive, plus, start, entriesOf, Archive.ofLines]
  have linesRead
      : (start.session feeds).counts.linesRead = (lines.map EndedLine.text).length := by
    rw [fed]
    exact (Nat.zero_add _).trans (Counts.linesRead_lines _ _)
  rw [taken]
  refine ⟨history_of_skip rfl feeds, rfl, ?_⟩
  exact
    {
      fedArchive := archive,
      readArchive := archive,
      fedLines := linesRead,
      readLines := linesRead,
      wrongFieldCount := rfl,
      tooLarge := rfl,
      malformedTask := rfl,
    }

/-- Five lines under all three ends, two of them empty: a carriage return stands before one of the
empty lines, which the newline behind it ends together with another carriage return.
-/
theorem builds_alike_mixed
    : let lines : List EndedLine :=
        [
          { text := "1\tÄnn\t\tLOGIN\tOK", ending := .carriageReturn },
          { text := "", ending := .returnNewline },
          { text := "1\tBo\t\tSOLVE_TASK x\tOK", ending := .newline },
          { text := "", ending := .newline },
          { text := "1\tBo\t\tDONE_TASK 7\tOK", ending := .carriageReturn }
        ]
      let start : Intake := { policy := .skip, limit := Entry.defaultLimit }
      let feeds := Feed.ofLines (fun _ => "a") (fun place => place + 1) (lines.map EndedLine.text)
      let read := start.takeSource { name := "b", bytes := encode (Source.ended lines) }
      (∀ line ∈ lines, NoLineEnd line.text.toList)
      ∧ lines.IsChain EndedLine.KeptApart
      ∧ BuiltAlike (lines.map EndedLine.text) (start.session feeds) read.1
      ∧ read.1.counts
        = {
            filesRead := 1,
            linesRead := 5,
            stored := 2,
            wrongFieldCount := 2,
            malformedTask := 1,
          } := by
  intro lines start feeds read
  have noLineEnd : ∀ line ∈ lines, NoLineEnd line.text.toList := by
    unfold NoLineEnd
    decide +kernel
  have apart : lines.IsChain EndedLine.KeptApart := by decide +kernel
  refine ⟨noLineEnd, apart, ?_, by decide +kernel⟩
  exact (builds_alike noLineEnd apart "b" (fun _ => "a") fun place => place + 1).2.2

end Intake

end Logbook
