import Logbook.Proofs.Entry.LineGrammar
import Logbook.Proofs.Intake.Contents

/-! A larger limit on the size of lines only adds entries. A line that fits the smaller limit is
read alike under both, and one that does not is too large there and may be anything under the
larger limit: an entry, a fault of another kind, or a reason to interrupt the intake.
-/

namespace Logbook

-----------------------------------------------------------------------------------------
-- One line under two limits
-----------------------------------------------------------------------------------------

namespace Entry

variable {limit larger : Nat} {line : String}

theorem ofLine_eq_of_fits (raised : limit ≤ larger) (fits : line.utf8ByteSize ≤ limit)
    : ofLine limit line = ofLine larger line :=
  ofLine_congr fits (Nat.le_trans fits raised) rfl

/-- Whatever else a line is read as, it fits the limit. -/
theorem fits_of_ne_tooLarge
    (other : ofLine limit line ≠ .error (.tooLarge line.utf8ByteSize limit))
    : line.utf8ByteSize ≤ limit :=
  Nat.not_lt.mp fun large => other (ofLine_of_large large)

/-- A line that lacks a task under a limit lacks it under a larger one, as it was not too large. -/
theorem lacksTask_of_le (raised : limit ≤ larger) (lacks : lacksTask limit line = true)
    : lacksTask larger line = true := by
  obtain ⟨field, read⟩ := lacksTask_eq_true.mp lacks
  have fits : line.utf8ByteSize ≤ limit := fits_of_ne_tooLarge (by simp [read])
  rw [ofLine_eq_of_fits raised fits] at read
  exact lacksTask_eq_true.mpr ⟨field, read⟩

end Entry

-----------------------------------------------------------------------------------------
-- Counts under two limits
-----------------------------------------------------------------------------------------

namespace Counts

/-- What a larger limit does to the counts: as much is read, fewer lines are too large, and more
lines may have another fault.
-/
structure Loosened (strict loose : Counts) : Prop where
  linesRead : loose.linesRead = strict.linesRead
  filesRead : loose.filesRead = strict.filesRead
  filesFailed : loose.filesFailed = strict.filesFailed
  tooLarge : loose.tooLarge ≤ strict.tooLarge
  wrongFieldCount : strict.wrongFieldCount ≤ loose.wrongFieldCount
  malformedTask : strict.malformedTask ≤ loose.malformedTask

theorem Loosened.refl (counts : Counts) : Loosened counts counts :=
  {
    linesRead := rfl,
    filesRead := rfl,
    filesFailed := rfl,
    tooLarge := Nat.le_refl _,
    wrongFieldCount := Nat.le_refl _,
    malformedTask := Nat.le_refl _,
  }

theorem Loosened.add {strict loose others more : Counts} (h : Loosened strict loose)
    (more_loose : Loosened others more)
    : Loosened (strict + others) (loose + more) :=
  {
    linesRead := congrArg₂ (· + ·) h.linesRead more_loose.linesRead,
    filesRead := congrArg₂ (· + ·) h.filesRead more_loose.filesRead,
    filesFailed := congrArg₂ (· + ·) h.filesFailed more_loose.filesFailed,
    tooLarge := Nat.add_le_add h.tooLarge more_loose.tooLarge,
    wrongFieldCount := Nat.add_le_add h.wrongFieldCount more_loose.wrongFieldCount,
    malformedTask := Nat.add_le_add h.malformedTask more_loose.malformedTask,
  }

/-- Counts are loosened where each part of them is, by induction on the parts. -/
theorem Loosened.sum {α : Type} {strict loose : α → Counts} (parts : List α)
    (h : ∀ part, Loosened (strict part) (loose part))
    : Loosened (parts.map strict).sum (parts.map loose).sum := by
  induction parts with
  | nil => exact .refl 0
  | cons part rest ih =>
      rw [List.map_cons, List.map_cons, List.sum_cons, List.sum_cons]
      exact (h part).add ih

variable {limit larger : Nat}

/-- Of the counts of a line only that of too large lines can sink. -/
theorem loosened_ofLine (raised : limit ≤ larger) (line : String)
    : Loosened (ofLine limit line) (ofLine larger line) := by
  rcases Nat.lt_or_ge limit line.utf8ByteSize with large | fits
  -- A line above the limit counts there as too large, whatever it counts as under the larger one.
  · rw [ofLine, Entry.ofLine_of_large large, ofLine]
    cases Entry.ofLine larger line with
    | ok entry => constructor <;> simp [skip]
    | error fault => cases fault <;> constructor <;> simp [skip]
  · rw [ofLine, Entry.ofLine_eq_of_fits raised fits, ← ofLine]
    exact .refl _

theorem loosened_ofSource (raised : limit ≤ larger) (source : Source)
    : Loosened (ofSource limit source) (ofSource larger source) :=
  (Loosened.sum source.lines (loosened_ofLine raised)).add (.refl _)

end Counts

-----------------------------------------------------------------------------------------
-- Entries under two limits
-----------------------------------------------------------------------------------------

namespace Intake

variable {limit larger : Nat}

/-- What is stored of the same lines under two limits. A line that is read under the larger limit
gives an entry to both lists, or to the second only, when its size is above the smaller limit.
-/
inductive Gains (limit larger : Nat) : List String → List Entry → List Entry → Prop
  | nil : Gains limit larger [] [] []
  | stored {line lines entry few many} (fits : line.utf8ByteSize ≤ limit)
    (read : Entry.ofLine larger line = .ok entry) (rest : Gains limit larger lines few many)
    : Gains limit larger (line :: lines) (entry :: few) (entry :: many)
  | gained {line lines entry few many} (above : limit < line.utf8ByteSize)
    (fits : line.utf8ByteSize ≤ larger) (read : Entry.ofLine larger line = .ok entry)
    (rest : Gains limit larger lines few many)
    : Gains limit larger (line :: lines) few (entry :: many)
  | unread {line lines fault few many} (read : Entry.ofLine larger line = .error fault)
    (rest : Gains limit larger lines few many)
    : Gains limit larger (line :: lines) few many

/-- No entry is lost and none changes its place, by induction on the lines. -/
theorem Gains.sublist {lines : List String} {few many : List Entry}
    (h : Gains limit larger lines few many)
    : few.Sublist many := by
  induction h with
  | nil => exact .slnil
  | stored _ _ _ ih => exact .cons_cons _ ih
  | gained _ _ _ _ ih => exact .cons _ ih
  | unread _ _ ih => exact ih

/-- The entries of lines under two limits, by induction on the lines. -/
theorem gains_entriesOf (raised : limit ≤ larger) (lines : List String)
    : Gains limit larger lines (entriesOf limit lines) (entriesOf larger lines) := by
  induction lines with
  | nil => exact .nil
  | cons line rest ih =>
      rw [entriesOf_cons limit, entriesOf_cons larger, entriesOf_singleton, entriesOf_singleton]
      rcases Nat.lt_or_ge limit line.utf8ByteSize with above | fits
      · rw [Entry.ofLine_of_large above]
        cases read : Entry.ofLine larger line with
        | ok entry => exact .gained above (Entry.fits_of_ne_tooLarge (by simp [read])) read ih
        | error fault => exact .unread read ih
      · rw [Entry.ofLine_eq_of_fits raised fits]
        cases read : Entry.ofLine larger line with
        | ok entry => exact .stored fits read ih
        | error fault => exact .unread read ih

theorem passes_of_le (raised : limit ≤ larger) {policy : Policy} {lines : List String}
    (passes : Passes { policy, limit := larger } lines)
    : Passes { policy, limit } lines := by
  intro abort line member
  refine Bool.eq_false_iff.mpr fun lacks => ?_
  have still := Entry.lacksTask_of_le raised lacks
  rw [passes abort line member] at still
  cases still

/-- What a larger limit changes in what an intake has after the same lines. -/
structure Widened (limit larger : Nat) (lines : List String) (small large : Intake) : Prop where
  sublist : small.entries.toList.Sublist large.entries.toList
  gains : Gains limit larger lines small.entries.toList large.entries.toList
  counts : Counts.Loosened small.counts large.counts

/-- The same sources under two limits. An intake that skips is interrupted under neither; it stores
under the larger limit what it stores under the smaller one, and further entries of lines between
the two limits. An intake that aborts is interrupted under the larger limit if it is under the
smaller one.
-/
theorem takeSources_widened (sources : List Source) (raised : limit ≤ larger)
    : let taken (policy : Policy) (limit : Nat) := takeSources { policy, limit } sources
      ((taken .skip limit).2 = none ∧ (taken .skip larger).2 = none)
      ∧ Widened limit larger (sources.flatMap Source.lines) (taken .skip limit).1
          (taken .skip larger).1
      ∧ ((taken .abort larger).2 = none → (taken .abort limit).2 = none) := by
  intro taken
  have passes (limit : Nat) : Passes { policy := .skip, limit } (sources.flatMap Source.lines) :=
    passes_of_skip rfl _
  have small := takeSources_eq (passes limit)
  have large := takeSources_eq (passes larger)
  have stored (limit : Nat)
      : (taken .skip limit).1.entries.toList
        = entriesOf limit (sources.flatMap Source.lines) := by
    simp [taken, takeSources_eq (passes limit), plus, entriesOf, List.filterMap_flatMap]
  have gains
      : Gains limit larger (sources.flatMap Source.lines) (taken .skip limit).1.entries.toList
          (taken .skip larger).1.entries.toList := by
    rw [stored, stored]
    exact gains_entriesOf raised _
  have counts : Counts.Loosened (taken .skip limit).1.counts (taken .skip larger).1.counts := by
    simp only [taken, small, large]
    exact (Counts.Loosened.refl _).add (.sum sources (Counts.loosened_ofSource raised))
  refine ⟨⟨congrArg Prod.snd small, congrArg Prod.snd large⟩, ?_, fun passed => ?_⟩
  · exact { sublist := gains.sublist, gains, counts }
  · exact takeSources_eq_none_iff.mpr (passes_of_le raised (takeSources_eq_none_iff.mp passed))

/-- Of four lines only the first fits the smaller limit. Under the larger one the second is stored
as well, the third has too many fields, and the fourth lacks its task, which interrupts an intake
that aborts. The fourth fits just so, as the byte in it that is no text counts for three.
-/
theorem takeSources_widened_interrupted
    : let text := "1\tA\t\tLOGIN\tOK\n1\tAnn\t\tLOGIN\tOK\r1\t2\t3\t4\t5\t6789\n"
      let more := "\tA\t\tSOLVE_TASK\tOK\nlost"
      let sources : List Source :=
        [
          { name := "a", bytes := Text.Utf8.encode text.toList },
          { name := "b", bytes := 0xFF :: Text.Utf8.encode more.toList, breaksOff := true }
        ]
      let taken (policy : Policy) (limit : Nat) := takeSources { policy, limit } sources
      (13 ≤ 20 ∧ 13 ≤ 19)
      ∧ Widened 13 20 (sources.flatMap Source.lines) (taken .skip 13).1 (taken .skip 20).1
      ∧ (taken .skip 13).1.counts
        = { filesRead := 1, filesFailed := 1, linesRead := 4, stored := 1, tooLarge := 3 }
      ∧ (taken .skip 20).1.counts
        = {
            filesRead := 1,
            filesFailed := 1,
            linesRead := 4,
            stored := 2,
            wrongFieldCount := 1,
            malformedTask := 1,
          }
      ∧ (taken .abort 20).2 ≠ none
      ∧ (taken .abort 13).2 = none := by
  intro text more sources taken
  have raised : 13 ≤ 20 := by decide
  have less : 13 ≤ 19 := by decide
  refine ⟨⟨raised, less⟩, (takeSources_widened sources raised).2.1, ?_, ?_, ?_, ?_⟩
  · decide +kernel
  · decide +kernel
  · decide +kernel
  · exact (takeSources_widened sources less).2.2 (by decide +kernel)

end Intake

end Logbook
