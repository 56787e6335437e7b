import Logbook.Proofs.Archive.Reordering
import Logbook.Proofs.Intake.Contents

/-! The order of the sources does not matter: the counts are sums, the entries are the same ones in
another order, and whether the intake is interrupted depends on the lines alone.
-/

namespace Logbook.Intake

/-- Sources that are taken in leave the same counts, and the same entries up to their order, as in
any other order.
-/
theorem takeSources_perm {intake : Intake} {sources others : List Source}
    (h : sources.Perm others) (taken : (intake.takeSources sources).2 = none)
    : (intake.takeSources others).2 = none
      ∧ (intake.takeSources sources).1.counts = (intake.takeSources others).1.counts
      ∧ (intake.takeSources sources).1.entries.toList.Perm
          (intake.takeSources others).1.entries.toList := by
  have passes := takeSources_eq_none_iff.mp taken
  have lines := h.flatMap_right Source.lines
  have others_pass : intake.Passes (others.flatMap Source.lines) := fun abort line member =>
    passes abort line (lines.mem_iff.mpr member)
  rw [takeSources_eq passes, takeSources_eq others_pass]
  refine ⟨rfl, ?_, ?_⟩
  · exact congrArg (intake.counts + ·) (h.map _).sum_eq
  · simp only [plus, Array.toList_append]
    exact (h.flatMap_right _).append_left _

/-- Of sources in two orders, an intake that skips takes in all, with the same counts and the same
entries up to their order, and an intake that aborts is interrupted in both orders or in neither.
Under either policy the archives, where there are both, give the same answers.
-/
theorem takeSources_in_any_order (intake : Intake) {sources others : List Source}
    (h : sources.Perm others)
    : let lenient := intake.under .skip
      let strict := intake.under .abort
      ((lenient.takeSources sources).2 = none ∧ (lenient.takeSources others).2 = none)
      ∧ (lenient.takeSources sources).1.counts = (lenient.takeSources others).1.counts
      ∧ (lenient.takeSources sources).1.entries.toList.Perm
          (lenient.takeSources others).1.entries.toList
      ∧ ((strict.takeSources sources).2 ≠ none ↔ (strict.takeSources others).2 ≠ none)
      ∧ ∀ policy,
          ((intake.under policy).takeSources sources).2 = none
          → ((intake.under policy).takeSources others).2 = none
          → Archive.AnswersAlike ((intake.under policy).takeSources sources).1.archive
              ((intake.under policy).takeSources others).1.archive := by
  intro lenient strict
  have passed (sources : List Source) : (lenient.takeSources sources).2 = none :=
    takeSources_eq_none_iff.mpr (passes_of_skip rfl _)
  obtain ⟨_, counts, entries⟩ := takeSources_perm h (passed sources)
  refine ⟨⟨passed sources, passed others⟩, counts, entries, not_congr ⟨?_, ?_⟩, ?_⟩
  · exact fun taken => (takeSources_perm h taken).1
  · exact fun taken => (takeSources_perm h.symm taken).1
  · intro policy taken _
    exact Archive.answersAlike_of_perm (takeSources_perm h taken).2.2

/-- Two sources, of which the second holds the earlier login and breaks off behind a line that lacks
a task. In either order an intake that skips finds the same first login, and one that aborts is
interrupted.
-/
theorem takeSources_in_any_order_first_login
    : let late : Source :=
        { name := "late", bytes := Text.Utf8.encode "1\tA\t2.1.2014 0:0:0\tLOGIN\tOK".toList }
      let early : Source :=
        {
          name := "early",
          bytes :=
            Text.Utf8.encode
              "1\tA\t1.1.2014 0:0:0\tLOGIN\tOK\r1\tA\t\tSOLVE_TASK\tOK\nlost".toList,
          breaksOff := true,
        }
      let lenient : Intake := { policy := .skip }
      let strict : Intake := { policy := .abort }
      [late, early].Perm [early, late]
      ∧ (lenient.takeSources [late, early]).1.counts
        = { filesRead := 1, filesFailed := 1, linesRead := 3, stored := 2, malformedTask := 1 }
      ∧ (lenient.takeSources [late, early]).1.archive.firstLogin? "A" .unbounded
        = (lenient.takeSources [early, late]).1.archive.firstLogin? "A" .unbounded
      ∧ (strict.takeSources [early, late]).2 ≠ none := by
  intro late early lenient strict
  have order : [late, early].Perm [early, late] := .swap early late []
  obtain ⟨passed, _, _, stopped, alike⟩ := takeSources_in_any_order lenient order
  refine ⟨order, by decide +kernel, ?_, stopped.mp (by decide +kernel)⟩
  exact (alike .skip passed.1 passed.2).firstLogin? "A" .unbounded

end Logbook.Intake
