import Mathlib.Algebra.BigOperators.Group.List.Basic
import Mathlib.Algebra.Group.Prod
import Logbook.Proofs.Intake.Policies

/-! What an intake has after sources that did not interrupt it: the entries of their lines, one
source after another, and the sum of what each line and each source counts for. An intake that
aborts is interrupted if and only if some line lacks a task.
-/

namespace Logbook

-----------------------------------------------------------------------------------------
-- Counts add up
-----------------------------------------------------------------------------------------

namespace Counts

@[ext]
theorem ext {a b : Counts} (filesRead : a.filesRead = b.filesRead)
    (filesFailed : a.filesFailed = b.filesFailed) (linesRead : a.linesRead = b.linesRead)
    (stored : a.stored = b.stored) (wrongFieldCount : a.wrongFieldCount = b.wrongFieldCount)
    (tooLarge : a.tooLarge = b.tooLarge) (malformedTask : a.malformedTask = b.malformedTask)
    : a = b := by
  cases a
  cases b
  simp_all

instance : Add Counts where
  add a b :=
    {
      filesRead := a.filesRead + b.filesRead,
      filesFailed := a.filesFailed + b.filesFailed,
      linesRead := a.linesRead + b.linesRead,
      stored := a.stored + b.stored,
      wrongFieldCount := a.wrongFieldCount + b.wrongFieldCount,
      tooLarge := a.tooLarge + b.tooLarge,
      malformedTask := a.malformedTask + b.malformedTask,
    }

instance : Zero Counts := ⟨{}⟩

instance : AddCommMonoid Counts where
  add_assoc _ _ _ := by ext <;> exact Nat.add_assoc ..
  zero_add _ := by ext <;> exact Nat.zero_add _
  add_zero _ := by ext <;> exact Nat.add_zero _
  add_comm _ _ := by ext <;> exact Nat.add_comm ..
  nsmul := nsmulRec

/-- What a line counts for when it does not interrupt the intake. -/
def ofLine (limit : Nat) (line : String) : Counts :=
  match Entry.ofLine limit line with
  | .ok _ => { linesRead := 1, stored := 1 }
  | .error fault => skip { linesRead := 1 } fault

/-- What a source counts for itself. -/
def ofFile (source : Source) : Counts :=
  if source.breaksOff then { filesFailed := 1 } else { filesRead := 1 }

/-- What a source and its lines count for. -/
def ofSource (limit : Nat) (source : Source) : Counts :=
  (source.lines.map (ofLine limit)).sum + ofFile source

/-- A fault counts the same wherever counting has come to. -/
theorem skip_add (counts more : Counts) (fault : Entry.Fault)
    : (counts + more).skip fault = counts + more.skip fault := by
  cases fault <;> rfl

/-- How many files were read, how many could not be, and how many lines were read. -/
def progress (counts : Counts) : Nat × Nat × Nat :=
  (counts.filesRead, counts.filesFailed, counts.linesRead)

theorem progress_add (a b : Counts) : (a + b).progress = a.progress + b.progress := rfl

theorem progress_ofLine (limit : Nat) (line : String)
    : (ofLine limit line).progress = (0, 0, 1) := by
  rw [ofLine]
  cases Entry.ofLine limit line with
  | ok entry => rfl
  | error fault => cases fault <;> rfl

theorem progress_lines (limit : Nat) (lines : List String)
    : (lines.map (ofLine limit)).sum.progress = (0, 0, lines.length) := by
  induction lines with
  | nil => rfl
  | cons line rest ih =>
      rw [List.map_cons, List.sum_cons, progress_add, progress_ofLine, ih, List.length_cons,
        Nat.add_comm]
      rfl

theorem progress_ofSource {source : Source} (whole : source.breaksOff = false) (limit : Nat)
    : (ofSource limit source).progress = (1, 0, source.lines.length) := by
  have file : (ofFile source).progress = (1, 0, 0) := by
    rw [ofFile, whole]
    rfl
  rw [ofSource, progress_add, progress_lines, file]
  rfl

/-- Each source that does not break off counts as read, and so do all its lines. -/
theorem progress_sources {sources : List Source}
    (whole : ∀ source ∈ sources, source.breaksOff = false) (limit : Nat)
    : (sources.map (ofSource limit)).sum.progress
      = (sources.length, 0, (sources.flatMap Source.lines).length) := by
  induction sources with
  | nil => rfl
  | cons source rest ih =>
      obtain ⟨first, later⟩ := List.forall_mem_cons.mp whole
      rw [List.map_cons, List.sum_cons, progress_add, progress_ofSource first, ih later,
        List.length_cons, List.flatMap_cons, List.length_append, Nat.add_comm rest.length]
      rfl

end Counts

namespace Intake

/-- The entries of the lines that hold one. -/
def entriesOf (limit : Nat) (lines : List String) : List Entry :=
  lines.filterMap fun line => (Entry.ofLine limit line).toOption

/-- The intake with further entries and counts. -/
def plus (intake : Intake) (entries : List Entry) (counts : Counts) : Intake :=
  {
    intake with
    entries := intake.entries ++ entries.toArray,
    counts := intake.counts + counts,
  }

@[simp]
theorem limit_plus (intake : Intake) (entries : List Entry) (counts : Counts)
    : (intake.plus entries counts).limit = intake.limit :=
  rfl

theorem plus_nil (intake : Intake) : intake.plus [] 0 = intake := by
  simp [plus]

theorem plus_plus (intake : Intake) (entries more : List Entry) (counts others : Counts)
    : (intake.plus entries counts).plus more others
      = intake.plus (entries ++ more) (counts + others) := by
  simp [plus, add_assoc]

/-- The intake is not interrupted by any of the lines. -/
def Passes (intake : Intake) (lines : List String) : Prop :=
  intake.policy = .abort → ∀ line ∈ lines, Entry.lacksTask intake.limit line = false

theorem passes_of_skip {intake : Intake} (skipping : intake.policy = .skip)
    (lines : List String)
    : intake.Passes lines := by
  intro abort
  rw [skipping] at abort
  cases abort

theorem passes_plus {intake : Intake} {entries : List Entry} {counts : Counts}
    {lines : List String}
    : (intake.plus entries counts).Passes lines ↔ intake.Passes lines :=
  Iff.rfl

theorem passes_cons {intake : Intake} {line : String} {rest : List String}
    : intake.Passes (line :: rest) ↔ intake.Passes [line] ∧ intake.Passes rest := by
  simp only [Passes, List.forall_mem_cons, List.not_mem_nil, false_implies, implies_true,
    and_true, imp_and]

theorem passes_append {intake : Intake} {front back : List String}
    : intake.Passes (front ++ back) ↔ intake.Passes front ∧ intake.Passes back := by
  simp only [Passes, List.forall_mem_append, imp_and]

theorem entriesOf_cons (limit : Nat) (line : String) (rest : List String)
    : entriesOf limit (line :: rest) = entriesOf limit [line] ++ entriesOf limit rest :=
  List.filterMap_append (l := [line])

theorem entriesOf_singleton (limit : Nat) (line : String)
    : entriesOf limit [line] = (Entry.ofLine limit line).toOption.toList := by
  rw [entriesOf, List.filterMap_cons, List.filterMap_nil]
  cases (Entry.ofLine limit line).toOption <;> rfl

-----------------------------------------------------------------------------------------
-- Lines that are taken in
-----------------------------------------------------------------------------------------

theorem store_countLine (intake : Intake) (entry : Entry)
    : intake.countLine.store entry = intake.plus [entry] { linesRead := 1, stored := 1 } :=
  rfl

theorem skip_countLine (intake : Intake) (fault : Entry.Fault)
    : intake.countLine.skip fault = intake.plus [] (Counts.skip { linesRead := 1 } fault) := by
  have counted : intake.countLine.counts = intake.counts + { linesRead := 1 } := rfl
  rw [skip, counted, Counts.skip_add, plus, List.toArray, Array.append_empty]
  rfl

/-- What a line leaves that does not interrupt the intake. -/
theorem takeLine_eq {intake : Intake} {line : String} (passes : intake.Passes [line])
    (source : String) (number : Nat)
    : intake.takeLine source number line
      = (intake.plus (entriesOf intake.limit [line]) (Counts.ofLine intake.limit line), none) := by
  have outcome := intake.takeLine_outcome source number line
  generalize intake.takeLine source number line = result at outcome ⊢
  cases outcome with
  | stored read =>
      rw [entriesOf_singleton, Counts.ofLine, read, store_countLine]
      rfl
  | interrupted read abort =>
      have lacks := Entry.lacksTask_eq_true.mpr ⟨_, read⟩
      rw [passes abort line (List.mem_singleton_self line)] at lacks
      cases lacks
  | skipped read =>
      rw [entriesOf_singleton, Counts.ofLine, read, skip_countLine]
      rfl

theorem passes_of_takeLine {intake : Intake} {source : String} {number : Nat} {line : String}
    (taken : (intake.takeLine source number line).2 = none)
    : intake.Passes [line] := by
  intro abort other member
  obtain rfl := List.mem_singleton.mp member
  refine Bool.eq_false_iff.mpr fun lacks => ?_
  obtain ⟨field, read⟩ := Entry.lacksTask_eq_true.mp lacks
  have limit : intake.countLine.limit = intake.limit := rfl
  have policy : intake.countLine.policy = .abort := abort
  simp [takeLine, limit, policy, read] at taken

/-- What lines leave that do not interrupt the intake, by induction on the lines. -/
theorem takeLines_eq {intake : Intake} {lines : List String} (passes : intake.Passes lines)
    (source : String) (number : Nat)
    : intake.takeLines source number lines
      = (
          intake.plus (entriesOf intake.limit lines)
            (lines.map (Counts.ofLine intake.limit)).sum,
          none
        ) := by
  induction lines generalizing intake number with
  | nil => exact congrArg (·, none) intake.plus_nil.symm
  | cons line rest ih =>
      obtain ⟨first, later⟩ := passes_cons.mp passes
      rw [takeLines, takeLine_eq first]
      simp only
      rw [ih (passes_plus.mpr later), plus_plus, limit_plus, ← entriesOf_cons, List.map_cons,
        List.sum_cons]

theorem passes_of_takeLines {intake : Intake} {source : String} {number : Nat}
    {lines : List String} (taken : (intake.takeLines source number lines).2 = none)
    : intake.Passes lines := by
  induction lines generalizing intake number with
  | nil => exact fun _ => List.forall_mem_nil _
  | cons line rest ih =>
      rw [takeLines] at taken
      split at taken
      · next middle found =>
          have first : intake.Passes [line] := passes_of_takeLine (congrArg Prod.snd found)
          rw [takeLine_eq first] at found
          cases found
          exact passes_cons.mpr ⟨first, passes_plus.mp (ih taken)⟩
      · next stopped =>
          exact (stopped _ (Prod.ext rfl taken)).elim

-----------------------------------------------------------------------------------------
-- Sources that are taken in
-----------------------------------------------------------------------------------------

/-- What a source leaves whose lines do not interrupt the intake. -/
theorem takeSource_eq {intake : Intake} {source : Source} (passes : intake.Passes source.lines)
    : intake.takeSource source
      = (
          intake.plus (entriesOf intake.limit source.lines)
            (Counts.ofSource intake.limit source),
          none
        ) := by
  rw [takeSource_of_takeLines (takeLines_eq passes ..), Counts.ofSource, Counts.ofFile]
  cases source.breaksOff <;> simp only [plus, countFile, failFile, ← add_assoc] <;> rfl

theorem passes_of_takeSource {intake : Intake} {source : Source}
    (taken : (intake.takeSource source).2 = none)
    : intake.Passes source.lines := by
  rw [takeSource] at taken
  split at taken
  · next found => exact passes_of_takeLines (congrArg Prod.snd found)
  · next stopped => exact (stopped _ (Prod.ext rfl taken)).elim

/-- What sources leave whose lines do not interrupt the intake, by induction on the sources. -/
theorem takeSources_eq {intake : Intake} {sources : List Source}
    (passes : intake.Passes (sources.flatMap Source.lines))
    : intake.takeSources sources
      = (
          intake.plus (sources.flatMap fun source => entriesOf intake.limit source.lines)
            (sources.map (Counts.ofSource intake.limit)).sum,
          none
        ) := by
  induction sources generalizing intake with
  | nil => exact congrArg (·, none) intake.plus_nil.symm
  | cons source rest ih =>
      obtain ⟨first, later⟩ := passes_append.mp passes
      rw [takeSources, takeSource_eq first]
      simp only
      rw [ih (passes_plus.mpr later), plus_plus, limit_plus, List.flatMap_cons, List.map_cons,
        List.sum_cons]

/-- An intake takes in all sources if and only if none of their lines interrupts it. -/
theorem takeSources_eq_none_iff {intake : Intake} {sources : List Source}
    : (intake.takeSources sources).2 = none
      ↔ intake.Passes (sources.flatMap Source.lines) := by
  refine ⟨fun taken => ?_, fun passes => by rw [takeSources_eq passes]⟩
  induction sources generalizing intake with
  | nil => exact fun _ => List.forall_mem_nil _
  | cons source rest ih =>
      rw [takeSources] at taken
      split at taken
      · next middle found =>
          have first : intake.Passes source.lines :=
            passes_of_takeSource (congrArg Prod.snd found)
          rw [takeSource_eq first] at found
          cases found
          exact passes_append.mpr ⟨first, passes_plus.mp (ih taken)⟩
      · next stopped => exact (stopped _ (Prod.ext rfl taken)).elim

end Intake

end Logbook
