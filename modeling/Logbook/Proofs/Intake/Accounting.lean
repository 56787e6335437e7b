import Logbook.Proofs.Intake.Sessions

/-! The counts of an intake balance all through a session.
Every line that was read is stored, passed over for a counted fault, or the one that interrupted
its feed, and every file that did not interrupt the intake is counted once.
-/

namespace Logbook

/-- The feed is a file, whether or not it can be opened. -/
def Feed.isFile : Feed → Bool
  | .source _ | .missing _ => true
  | .line _ _ _ => false

namespace Counts

theorem skipped_skip (counts : Counts) (fault : Entry.Fault)
    : (counts.skip fault).skipped = counts.skipped + 1 := by
  cases fault <;> simp only [skip, skipped] <;> omega

/-- Only a task event without a number counts as malformed. -/
theorem malformedTask_skip {counts : Counts} {fault : Entry.Fault}
    (other : ∀ field, fault ≠ .malformedTask field)
    : (counts.skip fault).malformedTask = counts.malformedTask := by
  cases fault with
  | malformedTask field => exact absurd rfl (other field)
  | tooLarge | fieldCount => rfl

end Counts

namespace Intake

-----------------------------------------------------------------------------------------
-- The balance that every feed keeps
-----------------------------------------------------------------------------------------

/-- The counts of an intake that was interrupted so many times, and took in so many files to their
end or their failure.
-/
structure Balanced (intake : Intake) (interruptions files : Nat) : Prop where
  stored : intake.counts.stored = intake.entries.size
  lines
    : intake.counts.linesRead
      = intake.counts.stored + intake.counts.skipped + interruptions
  files : intake.counts.filesRead + intake.counts.filesFailed = files
  strict : intake.policy = .abort → intake.counts.malformedTask = 0

variable {intake : Intake} {interruptions files : Nat}

/-- Either way of counting a file counts one. -/
theorem Balanced.fileCounted (h : intake.Balanced interruptions files)
    : intake.countFile.Balanced interruptions (files + 1)
      ∧ intake.failFile.Balanced interruptions (files + 1) := by
  have before := h.files
  constructor
  · refine { stored := h.stored, lines := h.lines, files := ?_, strict := h.strict }
    simp only [countFile]
    omega
  · refine { stored := h.stored, lines := h.lines, files := ?_, strict := h.strict }
    simp only [failFile]
    omega

/-- A line is read, and it is stored, or passed over, or interrupts the intake. -/
theorem Balanced.takeLine (h : intake.Balanced interruptions files) (source : String)
    (number : Nat) (line : String)
    : (intake.takeLine source number line).1.Balanced
        (interruptions + if (intake.takeLine source number line).2.isSome then 1 else 0)
        files := by
  have outcome := intake.takeLine_outcome source number line
  have before := h.lines
  generalize intake.takeLine source number line = result at outcome ⊢
  cases outcome with
  | stored =>
      refine { stored := ?_, lines := ?_, files := h.files, strict := h.strict }
      · simp [store, countLine, h.stored]
      · simp only [store, countLine, Counts.skipped, Option.isSome_none] at before ⊢
        simp only [Bool.false_eq_true, if_false]
        omega
  | interrupted =>
      refine { stored := h.stored, lines := ?_, files := h.files, strict := h.strict }
      simp only [countLine, Counts.skipped, Option.isSome_some, if_true] at before ⊢
      omega
  | @skipped fault read passed =>
      obtain ⟨lines, stored, read, failed⟩ := intake.countLine.counts.skip_others fault
      refine { stored := ?_, lines := ?_, files := ?_, strict := fun abort => ?_ }
      · exact stored.trans h.stored
      · simp only [skip, Option.isSome_none, Bool.false_eq_true, if_false]
        rw [lines, stored, Counts.skipped_skip]
        simp only [countLine, Counts.skipped] at before ⊢
        omega
      · simp only [skip]
        rw [read, failed]
        exact h.files
      · have other : ∀ field, fault ≠ .malformedTask field := by
          intro field malformed
          have skipping : intake.policy = .skip := passed field malformed
          have aborting : intake.policy = .abort := abort
          rw [skipping] at aborting
          cases aborting
        exact (Counts.malformedTask_skip other).trans (h.strict abort)

theorem Balanced.takeLines (h : intake.Balanced interruptions files) (source : String)
    (number : Nat) (lines : List String)
    : (intake.takeLines source number lines).1.Balanced
        (interruptions + if (intake.takeLines source number lines).2.isSome then 1 else 0)
        files := by
  refine takeLines_result_induction
    (motive := fun result =>
      result.1.Balanced (interruptions + if result.2.isSome then 1 else 0) files) h ?_
  intro line _ intake number kept
  exact Balanced.takeLine kept source number line

/-- A feed adds its interruption, or else the file that it is. -/
theorem Balanced.take (h : intake.Balanced interruptions files) (feed : Feed)
    : (intake.take feed).1.Balanced
        (interruptions + if (intake.take feed).2.isSome then 1 else 0)
        (files + if feed.isFile && (intake.take feed).2.isNone then 1 else 0) := by
  cases feed with
  | source source =>
      have taken := h.takeLines source.name 1 source.lines
      rw [Intake.take]
      cases found : intake.takeLines source.name 1 source.lines with
      | mk next outcome =>
          rw [found] at taken
          cases outcome with
          | none =>
              rw [takeSource_of_takeLines found]
              cases source.breaksOff with
              | false => exact taken.fileCounted.1
              | true => exact taken.fileCounted.2
          | some stop =>
              rw [takeSource_of_interrupted found]
              exact taken
  | line source number line => exact h.takeLine source number line
  | missing path => exact h.fileCounted.2

/-- The balance is kept through a session, by induction on its feeds. -/
theorem Balanced.session (h : intake.Balanced interruptions files) (feeds : List Feed)
    : (intake.session feeds).Balanced
        (interruptions + (intake.history feeds).countP fun step => step.2.isSome)
        (files
          + (intake.history feeds).countP fun step => step.1.isFile && step.2.isNone) := by
  induction feeds generalizing intake interruptions files with
  | nil => exact h
  | cons feed rest ih =>
      have later := ih (h.take feed)
      rw [session_cons, history, List.countP_cons, List.countP_cons]
      simpa only [Nat.add_assoc, Nat.add_comm] using later

-----------------------------------------------------------------------------------------
-- A whole session
-----------------------------------------------------------------------------------------

/-- A line adds at most one entry, behind those that are stored. -/
theorem entries_prefix_takeLine (intake : Intake) (source : String) (number : Nat)
    (line : String)
    : intake.entries.toList <+: (intake.takeLine source number line).1.entries.toList := by
  have outcome := intake.takeLine_outcome source number line
  generalize intake.takeLine source number line = result at outcome ⊢
  cases outcome with
  | @stored entry => exact ⟨[entry], by simp [store, countLine]⟩
  | interrupted | skipped => exact List.prefix_rfl

theorem entries_prefix_take (intake : Intake) (feed : Feed)
    : intake.entries.toList <+: (intake.take feed).1.entries.toList := by
  refine take_induction
    (motive := fun next => intake.entries.toList <+: next.entries.toList) List.prefix_rfl ?_
    (fun _ kept => kept) (fun _ kept => kept)
  intro source number line next kept
  exact kept.trans (next.entries_prefix_takeLine source number line)

/-- A session that skips has no interruptions, by induction on its feeds. -/
theorem history_of_skip {intake : Intake} (skipping : intake.policy = .skip)
    (feeds : List Feed)
    : ∀ step ∈ intake.history feeds, step.2 = none := by
  induction feeds generalizing intake with
  | nil => exact List.forall_mem_nil _
  | cons feed rest ih =>
      refine List.forall_mem_cons.mpr ⟨take_of_skip skipping feed, ih ?_⟩
      rw [policy_take]
      exact skipping

/-- What the counts and the entries say after the feeds of a session so far, and what the next feed
leaves as it is.
-/
structure Accounted (start : Intake) (feeds : List Feed) : Prop where
  stored : (start.session feeds).counts.stored = (start.session feeds).entries.size
  lines
    : (start.session feeds).counts.linesRead
      = (start.session feeds).counts.stored
        + (start.session feeds).counts.wrongFieldCount
        + (start.session feeds).counts.tooLarge
        + (start.session feeds).counts.malformedTask
        + (start.history feeds).countP fun step => step.2.isSome
  files
    : (start.session feeds).counts.filesRead + (start.session feeds).counts.filesFailed
      = (start.history feeds).countP fun step => step.1.isFile && step.2.isNone
  uninterrupted : start.policy = .skip → ∀ step ∈ start.history feeds, step.2 = none
  strict : start.policy = .abort → (start.session feeds).counts.malformedTask = 0
  growing
    : ∀ feed,
        (start.session feeds).entries.toList
          <+: (start.session (feeds ++ [feed])).entries.toList

/-- A session that starts with nothing is accounted for after each of its feeds, whatever is fed
and whether or not some feeds are interrupted.
-/
theorem session_accounted (policy : Policy) (limit : Nat) (feeds : List Feed)
    : Accounted { policy, limit } feeds := by
  have start : Balanced { policy, limit } 0 0 :=
    { stored := rfl, lines := rfl, files := rfl, strict := fun _ => rfl }
  have balanced := start.session feeds
  have kept : (session { policy, limit } feeds).policy = policy :=
    session_induction (motive := fun next => next.policy = policy) rfl fun feed _ next kept =>
      (next.policy_take feed).trans kept
  have lines := balanced.lines
  have files := balanced.files
  simp only [Counts.skipped, Nat.zero_add] at lines files
  refine
    {
      stored := balanced.stored,
      lines := by omega,
      files,
      uninterrupted := fun skipping => history_of_skip skipping feeds,
      strict := fun abort => balanced.strict (kept.trans abort),
      growing := fun feed => ?_,
    }
  rw [session_append, session_cons]
  exact (session { policy, limit } feeds).entries_prefix_take feed

/-- Five feeds under a strict limit, two of them interrupted: the first source behind one stored
line, and a single line. Skipping instead, none is interrupted.
-/
theorem session_accounted_interrupted
    : let bad := "::1\tAnn\t\tSOLVE_TASK\tOK"
      let feeds : List Feed :=
        [
          .source
            {
              name := "a",
              bytes := Text.Utf8.encode ("::1\tBo\t\tLOGIN\tOK\r\r\n" ++ bad ++ "\rx").toList,
            },
          .missing "b",
          .line "c" 7 bad,
          .source { name := "d", bytes := Text.Utf8.encode "x\nlost".toList, breaksOff := true },
          .source { name := "e", bytes := [] }
        ]
      let strict : Intake := { policy := .abort, limit := 30 }
      let lenient : Intake := { policy := .skip, limit := 30 }
      (strict.session feeds).counts
        = { filesRead := 1, filesFailed := 2, linesRead := 5, stored := 1, wrongFieldCount := 2 }
      ∧ ((strict.history feeds).countP fun step => step.2.isSome) = 2
      ∧ (strict.session feeds).counts.malformedTask = 0
      ∧ (lenient.session feeds).counts.malformedTask = 2
      ∧ ∀ step ∈ lenient.history feeds, step.2 = none := by
  intro bad feeds strict lenient
  refine ⟨by decide +kernel, by decide +kernel, ?_, by decide +kernel, ?_⟩
  · exact (session_accounted .abort 30 feeds).strict rfl
  · exact (session_accounted .skip 30 feeds).uninterrupted rfl

end Intake

end Logbook
