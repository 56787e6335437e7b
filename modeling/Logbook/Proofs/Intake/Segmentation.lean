import Logbook.Intake
import Logbook.Proofs.Source.Scanning

/-! Taking in a source is taking in, one by one, the lines that one pass over its bytes cuts.
-/

namespace Logbook.Intake

open Text

/-- Takes in the next numbered line unless an earlier one interrupted the intake. -/
def takeNext (source : String)
    : Intake × Option Interruption → String × Nat → Intake × Option Interruption
  | (intake, none), (line, number) => intake.takeLine source number line
  | (intake, some stop), _ => (intake, some stop)

/-- Takes in the lines of one pass over the bytes, numbered from one. Unless one of them interrupts
the intake, the source is then counted.
-/
def takeScanned (intake : Intake) (source : String) (bytes : List UInt8)
    (count : Intake → Intake)
    : Intake × Option Interruption :=
  let lines := (Source.scan bytes).map fun line => String.ofList (Utf8.decode line)
  match (lines.zipIdx 1).foldl (takeNext source) (intake, none) with
  | (intake, none) => (count intake, none)
  | (intake, some stop) => (intake, some stop)

/-- Nothing is taken in behind an interruption, by induction on the lines. -/
theorem foldl_takeNext_stopped (intake : Intake) (source : String) (stop : Interruption)
    (lines : List (String × Nat))
    : lines.foldl (takeNext source) (intake, some stop) = (intake, some stop) := by
  induction lines with
  | nil => rfl
  | cons line rest ih => exact ih

/-- Lines are taken in one by one under their numbers, by induction on the lines. -/
theorem takeLines_eq_foldl (intake : Intake) (source : String) (number : Nat)
    (lines : List String)
    : intake.takeLines source number lines
      = (lines.zipIdx number).foldl (takeNext source) (intake, none) := by
  induction lines generalizing intake number with
  | nil => rfl
  | cons line rest ih =>
      rw [takeLines, List.zipIdx_cons, List.foldl_cons, takeNext]
      cases taken : intake.takeLine source number line with
      | mk next outcome =>
          cases outcome with
          | none => exact ih next (number + 1)
          | some stop => exact (foldl_takeNext_stopped next source stop _).symm

/-- A source is taken in as any bytes that one pass cuts into its lines. -/
theorem takeSource_eq_of_byteLines (intake : Intake) {source : Source} {bytes : List UInt8}
    (lines : source.byteLines = Source.scan bytes)
    : intake.takeSource source
      = intake.takeScanned source.name bytes
          (if source.breaksOff then failFile else countFile) := by
  rw [takeSource, Source.lines, lines, takeLines_eq_foldl, takeScanned]
  generalize List.foldl _ _ _ = result
  obtain ⟨taken, outcome⟩ := result
  cases outcome with
  | none => cases source.breaksOff <;> rfl
  | some stop => rfl

/-- A source that is read to its end is taken in as the lines of one pass over all its bytes, and
one that breaks off as those of one pass up to its last newline; what differs besides is only how
the source is counted.
-/
theorem takeSource_eq_takeScanned (intake : Intake) (name : String) (bytes : List UInt8)
    : intake.takeSource { name, bytes } = intake.takeScanned name bytes countFile
      ∧ intake.takeSource { name, bytes, breaksOff := true }
        = intake.takeScanned name (Source.untilLastNewline bytes) failFile := by
  constructor
  · exact intake.takeSource_eq_of_byteLines (Source.byteLines_eq_scan name bytes)
  · exact intake.takeSource_eq_of_byteLines (Source.byteLines_breaksOff name bytes)

end Logbook.Intake
