import Logbook.Intake

/-! What a line can do to an intake, and what therefore holds all through a session.
A session goes on after an interruption: what was taken in up to there is kept.
-/

namespace Logbook

-----------------------------------------------------------------------------------------
-- One line
-----------------------------------------------------------------------------------------

/-- Counting a fault changes none of the counts of lines, entries and files. -/
theorem Counts.skip_others (counts : Counts) (fault : Entry.Fault)
    : (counts.skip fault).linesRead = counts.linesRead
      ∧ (counts.skip fault).stored = counts.stored
      ∧ (counts.skip fault).filesRead = counts.filesRead
      ∧ (counts.skip fault).filesFailed = counts.filesFailed := by
  cases fault <;> exact ⟨rfl, rfl, rfl, rfl⟩

namespace Intake

/-- What one line does: it is stored, it interrupts the intake, or it is passed over. -/
inductive LineOutcome (intake : Intake) (source : String) (number : Nat) (line : String)
    : Intake × Option Interruption → Prop
  | stored {entry} (read : Entry.ofLine intake.limit line = .ok entry)
    : LineOutcome intake source number line (intake.countLine.store entry, none)
  | interrupted {field} (read : Entry.ofLine intake.limit line = .error (.malformedTask field))
    (abort : intake.policy = .abort)
    : LineOutcome intake source number line
        (intake.countLine, some { source, line := number, field })
  | skipped {fault} (read : Entry.ofLine intake.limit line = .error fault)
    (passed : ∀ field, fault = .malformedTask field → intake.policy = .skip)
    : LineOutcome intake source number line (intake.countLine.skip fault, none)

theorem takeLine_outcome (intake : Intake) (source : String) (number : Nat) (line : String)
    : LineOutcome intake source number line (intake.takeLine source number line) := by
  have limit : intake.countLine.limit = intake.limit := rfl
  have policy : intake.countLine.policy = intake.policy := rfl
  simp only [takeLine, limit, policy]
  cases read : Entry.ofLine intake.limit line with
  | ok entry => exact .stored read
  | error fault =>
      cases fault with
      | malformedTask field =>
          cases chosen : intake.policy with
          | skip => exact .skipped read fun _ _ => chosen
          | abort => exact .interrupted read chosen
      | tooLarge size limit => exact .skipped read (by simp)
      | fieldCount expected found => exact .skipped read (by simp)

/-- A line does not change what to do about a task event without a number. -/
theorem policy_takeLine (intake : Intake) (source : String) (number : Nat) (line : String)
    : (intake.takeLine source number line).1.policy = intake.policy := by
  have outcome := intake.takeLine_outcome source number line
  generalize intake.takeLine source number line = result at outcome ⊢
  cases outcome with
  | stored | interrupted | skipped => rfl

/-- An intake that skips is never interrupted by a line. -/
theorem takeLine_of_skip {intake : Intake} (skipping : intake.policy = .skip) (source : String)
    (number : Nat) (line : String)
    : (intake.takeLine source number line).2 = none := by
  have outcome := intake.takeLine_outcome source number line
  generalize intake.takeLine source number line = result at outcome ⊢
  cases outcome with
  | stored | skipped => rfl
  | interrupted read abort =>
      rw [skipping] at abort
      cases abort

-----------------------------------------------------------------------------------------
-- Lines, sources and feeds
-----------------------------------------------------------------------------------------

/-- Lines keep of the intake and its outcome whatever each line keeps that is come to without an
interruption, by induction on the lines.
-/
theorem takeLines_result_induction {motive : Intake × Option Interruption → Prop}
    {intake : Intake} {source : String} {number : Nat} {lines : List String}
    (start : motive (intake, none))
    (step
      : ∀ line ∈ lines,
          ∀ intake number,
            motive (intake, none) → motive (intake.takeLine source number line))
    : motive (intake.takeLines source number lines) := by
  induction lines generalizing intake number with
  | nil => exact start
  | cons line rest ih =>
      obtain ⟨first, later⟩ := List.forall_mem_cons.mp step
      have taken := first intake number start
      rw [takeLines]
      split
      · next intake found =>
          rw [found] at taken
          exact ih taken later
      · exact taken

/-- Lines keep whatever each of them keeps. -/
theorem takeLines_induction {motive : Intake → Prop} {intake : Intake} {source : String}
    {number : Nat} {lines : List String} (start : motive intake)
    (step
      : ∀ line ∈ lines,
          ∀ intake number, motive intake → motive (intake.takeLine source number line).1)
    : motive (intake.takeLines source number lines).1 :=
  takeLines_result_induction (motive := fun result => motive result.1) start step

/-- Lines count no files. -/
theorem takeLines_files (intake : Intake) (source : String) (number : Nat) (lines : List String)
    : (intake.takeLines source number lines).1.counts.filesRead = intake.counts.filesRead
      ∧ (intake.takeLines source number lines).1.counts.filesFailed
        = intake.counts.filesFailed := by
  refine takeLines_induction
    (motive := fun next =>
      next.counts.filesRead = intake.counts.filesRead
      ∧ next.counts.filesFailed = intake.counts.filesFailed) ⟨rfl, rfl⟩ ?_
  intro line _ next number kept
  have outcome := next.takeLine_outcome source number line
  generalize next.takeLine source number line = result at outcome ⊢
  cases outcome with
  | stored | interrupted => exact kept
  | @skipped fault =>
      obtain ⟨_, _, read, failed⟩ := next.countLine.counts.skip_others fault
      exact ⟨read.trans kept.1, failed.trans kept.2⟩

/-- Behind lines that are taken in, the intake goes on with what follows them, by induction on the
lines.
-/
theorem takeLines_append {intake next : Intake} {source : String} {number : Nat}
    {front : List String} (taken : intake.takeLines source number front = (next, none))
    (back : List String)
    : intake.takeLines source number (front ++ back)
      = next.takeLines source (number + front.length) back := by
  induction front generalizing intake number with
  | nil =>
      cases taken
      rfl
  | cons line rest ih =>
      rw [takeLines] at taken
      rw [List.cons_append, takeLines]
      cases found : intake.takeLine source number line with
      | mk middle outcome =>
          rw [found] at taken
          cases outcome with
          | none =>
              simp only at taken ⊢
              rw [ih taken, List.length_cons, Nat.add_assoc, Nat.add_comm 1]
          | some stop => cases taken

/-- A source whose lines are all taken in is counted by whether it broke off. -/
theorem takeSource_of_takeLines {intake next : Intake} {source : Source}
    (taken : intake.takeLines source.name 1 source.lines = (next, none))
    : intake.takeSource source
      = (if source.breaksOff then next.failFile else next.countFile, none) := by
  rw [takeSource, taken]

/-- An interruption by a line ends its source, which is then not counted. -/
theorem takeSource_of_interrupted {intake next : Intake} {source : Source}
    {stop : Interruption}
    (taken : intake.takeLines source.name 1 source.lines = (next, some stop))
    : intake.takeSource source = (next, some stop) := by
  rw [takeSource, taken]

/-- An intake that skips is never interrupted by lines, as it goes on skipping. -/
theorem takeLines_of_skip {intake : Intake} (skipping : intake.policy = .skip) (source : String)
    (number : Nat) (lines : List String)
    : (intake.takeLines source number lines).2 = none := by
  have both
      : (intake.takeLines source number lines).1.policy = .skip
        ∧ (intake.takeLines source number lines).2 = none := by
    refine takeLines_result_induction
      (motive := fun result => result.1.policy = .skip ∧ result.2 = none) ⟨skipping, rfl⟩ ?_
    intro line _ intake number kept
    refine ⟨?_, takeLine_of_skip kept.1 source number line⟩
    exact (intake.policy_takeLine source number line).trans kept.1
  exact both.2

/-- A source keeps what its lines and the counting of files keep. -/
theorem takeSource_induction {motive : Intake → Prop} {intake : Intake} {source : Source}
    (start : motive intake)
    (step
      : ∀ line ∈ source.lines,
          ∀ intake number, motive intake → motive (intake.takeLine source.name number line).1)
    (count : ∀ intake, motive intake → motive intake.countFile)
    (fail : ∀ intake, motive intake → motive intake.failFile)
    : motive (intake.takeSource source).1 := by
  have taken : motive (intake.takeLines source.name 1 source.lines).1 :=
    takeLines_induction start step
  cases found : intake.takeLines source.name 1 source.lines with
  | mk next outcome =>
      rw [found] at taken
      cases outcome with
      | none =>
          rw [takeSource_of_takeLines found]
          cases source.breaksOff with
          | false => exact count next taken
          | true => exact fail next taken
      | some stop =>
          rw [takeSource_of_interrupted found]
          exact taken

/-- A feed keeps what any line and the counting of files keep. -/
theorem take_induction {motive : Intake → Prop} {intake : Intake} {feed : Feed}
    (start : motive intake)
    (step
      : ∀ source number line intake,
          motive intake → motive (intake.takeLine source number line).1)
    (count : ∀ intake, motive intake → motive intake.countFile)
    (fail : ∀ intake, motive intake → motive intake.failFile)
    : motive (intake.take feed).1 := by
  cases feed with
  | source source =>
      refine takeSource_induction start (fun line _ intake number kept => ?_) count fail
      exact step source.name number line intake kept
  | line source number line => exact step source number line intake start
  | missing path => exact fail intake start

theorem policy_take (intake : Intake) (feed : Feed)
    : (intake.take feed).1.policy = intake.policy := by
  refine take_induction (motive := fun next => next.policy = intake.policy) rfl ?_
    (fun _ kept => kept) (fun _ kept => kept)
  intro source number line next kept
  exact (next.policy_takeLine source number line).trans kept

theorem take_of_skip {intake : Intake} (skipping : intake.policy = .skip) (feed : Feed)
    : (intake.take feed).2 = none := by
  cases feed with
  | source source =>
      have passed := takeLines_of_skip skipping source.name 1 source.lines
      rw [take, takeSource_of_takeLines (Prod.ext rfl passed)]
  | line source number line => exact takeLine_of_skip skipping source number line
  | missing path => rfl

-----------------------------------------------------------------------------------------
-- Sessions
-----------------------------------------------------------------------------------------

/-- The intake after a session of feeds, in which an interruption ends its own feed only. -/
def session (intake : Intake) (feeds : List Feed) : Intake :=
  feeds.foldl (fun intake feed => (intake.take feed).1) intake

/-- A session keeps what each of its feeds keeps, by induction on the feeds. -/
theorem session_induction {motive : Intake → Prop} {intake : Intake} {feeds : List Feed}
    (start : motive intake)
    (step : ∀ feed ∈ feeds, ∀ intake, motive intake → motive (intake.take feed).1)
    : motive (intake.session feeds) := by
  induction feeds generalizing intake with
  | nil => exact start
  | cons feed rest ih =>
      obtain ⟨first, later⟩ := List.forall_mem_cons.mp step
      exact ih (first intake start) later

/-- The feeds of a session, each with the interruption that it ended in. -/
def history (intake : Intake) : List Feed → List (Feed × Option Interruption)
  | [] => []
  | feed :: rest => (feed, (intake.take feed).2) :: (intake.take feed).1.history rest

theorem session_cons (intake : Intake) (feed : Feed) (rest : List Feed)
    : intake.session (feed :: rest) = (intake.take feed).1.session rest :=
  rfl

theorem session_append (intake : Intake) (earlier later : List Feed)
    : intake.session (earlier ++ later) = (intake.session earlier).session later :=
  List.foldl_append

/-- Every stored entry has the property. -/
def AllStored (property : Entry → Prop) (intake : Intake) : Prop :=
  ∀ entry ∈ intake.entries, property entry

/-- A line stores nothing but the entry that is read from it. -/
theorem AllStored.takeLine {property : Entry → Prop} {intake : Intake} {line : String}
    (h : intake.AllStored property) (source : String) (number : Nat)
    (read : ∀ limit entry, Entry.ofLine limit line = .ok entry → property entry)
    : (intake.takeLine source number line).1.AllStored property := by
  have outcome := intake.takeLine_outcome source number line
  generalize intake.takeLine source number line = result at outcome ⊢
  cases outcome with
  | interrupted | skipped => exact h
  | stored found =>
      intro entry member
      rcases Array.mem_push.mp member with earlier | rfl
      · exact h entry earlier
      · exact read _ _ found

end Intake

end Logbook
