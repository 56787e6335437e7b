import Logbook.Proofs.Entry.Reading
import Logbook.Proofs.Intake.Sessions

/-! An intake that aborts does what one that skips does, up to the first task event without a
number. There it stops with that line counted as read, and nothing behind it is seen.
-/

namespace Logbook

namespace Entry

/-- The line has five fields and fits the limit, but its task event has no number. -/
def lacksTask (limit : Nat) (line : String) : Bool :=
  match ofLine limit line with
  | .error (.malformedTask _) => true
  | _ => false

theorem lacksTask_eq_true {limit : Nat} {line : String}
    : lacksTask limit line = true
      ↔ ∃ field, ofLine limit line = .error (.malformedTask field) := by
  unfold lacksTask
  split <;> simp_all

/-- The fault of a task event without a number holds the whole event field of its line. -/
theorem fieldsOfLine_of_malformedTask {limit : Nat} {line field : String}
    (read : ofLine limit line = .error (.malformedTask field))
    : ∃ address user time event status,
        fieldsOfLine line.toList = [address, user, time, event, status]
        ∧ field = String.ofList event := by
  have shape := readAs_ofLine limit line
  rw [read] at shape
  cases shape with
  | @malformedTask address user time event status fits fields unread =>
      exact ⟨address, user, time, event, status, fields, rfl⟩

end Entry

namespace Intake

/-- The same intake under another policy. -/
def under (intake : Intake) (policy : Policy) : Intake := { intake with policy }

/-- Any other line is taken in alike under every policy. -/
theorem takeLine_under {intake : Intake} {line : String}
    (other : Entry.lacksTask intake.limit line = false) (source : String) (number : Nat)
    : ∃ next : Intake,
        next.limit = intake.limit
        ∧ ∀ policy,
            (intake.under policy).takeLine source number line = (next.under policy, none) := by
  cases read : Entry.ofLine intake.limit line with
  | ok entry =>
      refine ⟨intake.countLine.store entry, rfl, fun policy => ?_⟩
      simp [takeLine, countLine, store, under, read]
  | error fault =>
      refine ⟨intake.countLine.skip fault, rfl, fun policy => ?_⟩
      cases fault with
      | malformedTask field => simp [Entry.lacksTask, read] at other
      | tooLarge | fieldCount => simp [takeLine, countLine, skip, under, read]

/-- Lines of which none lacks a task are taken in alike under every policy, by induction on them. -/
theorem takeLines_under {intake : Intake} {lines : List String}
    (others : ∀ line ∈ lines, Entry.lacksTask intake.limit line = false) (source : String)
    (number : Nat)
    : ∃ next : Intake,
        next.limit = intake.limit
        ∧ ∀ policy,
            (intake.under policy).takeLines source number lines
            = (next.under policy, none) := by
  induction lines generalizing intake number with
  | nil => exact ⟨intake, rfl, fun _ => rfl⟩
  | cons line rest ih =>
      obtain ⟨first, later⟩ := List.forall_mem_cons.mp others
      obtain ⟨middle, limit, taken⟩ := takeLine_under first source number
      obtain ⟨next, same, passed⟩ := ih (limit ▸ later) (number + 1)
      refine ⟨next, same.trans limit, fun policy => ?_⟩
      rw [takeLines, taken policy]
      exact passed policy

/-- The line that interrupts an intake is counted as read and changes nothing else. -/
theorem takeLine_abort {intake : Intake} {line field : String}
    (read : Entry.ofLine intake.limit line = .error (.malformedTask field)) (source : String)
    (number : Nat)
    : (intake.under .abort).takeLine source number line
      = (intake.countLine.under .abort, some { source, line := number, field }) := by
  simp [takeLine, countLine, under, read]

/-- A strict intake of a source stops at the first line that lacks a task, where a lenient one has
come to the same point. What stands behind that line is arbitrary.
-/
theorem takeSource_abort {intake : Intake} {front : List String} {line field : String}
    (others : ∀ earlier ∈ front, Entry.lacksTask intake.limit earlier = false)
    (read : Entry.ofLine intake.limit line = .error (.malformedTask field)) (name : String)
    : ∃ before : Intake,
        before.limit = intake.limit
        ∧ (intake.under .skip).takeLines name 1 front = (before.under .skip, none)
        ∧ ∀ (source : Source) (back : List String),
            source.name = name
            → source.lines = front ++ line :: back
            → (intake.under .abort).takeSource source
              = (
                  before.countLine.under .abort,
                  some { source := name, line := front.length + 1, field }
                ) := by
  obtain ⟨before, limit, taken⟩ := takeLines_under others name 1
  refine ⟨before, limit, taken .skip, ?_⟩
  rintro source back rfl lines
  apply takeSource_of_interrupted
  rw [lines, takeLines_append (taken .abort), takeLines, takeLine_abort (limit ▸ read),
    Nat.add_comm 1]

/-- A list that agrees with another up to an item inside goes on behind that item in its own way. -/
theorem exists_of_take_eq {α : Type} {items others : List α} {k : Nat}
    (inside : k < items.length) (same : others.take (k + 1) = items.take (k + 1))
    : ∃ back, others = items.take k ++ items[k] :: back := by
  refine ⟨others.drop (k + 1), ?_⟩
  calc others
    _ = others.take (k + 1) ++ others.drop (k + 1) := (List.take_append_drop ..).symm
    _ = items.take k ++ [items[k]] ++ others.drop (k + 1) := by
        rw [same, List.take_succ_eq_append_getElem inside]
    _ = items.take k ++ items[k] :: others.drop (k + 1) := List.append_assoc ..

/-- Intakes that differ in their policy alone, fed the same source. Without a line that lacks a task
they end alike; otherwise only the strict one is interrupted, at the first such line, with what the
lenient one had stored and counted before that line, the line itself counted as read, no file
counted, and no regard to what follows.
-/
theorem takeSource_abort_against_skip (intake : Intake) (source : Source)
    : let lenient := intake.under .skip
      let strict := intake.under .abort
      (lenient.takeSource source).2 = none
      ∧ match source.lines.findIdx? (Entry.lacksTask intake.limit) with
        | none =>
            (strict.takeSource source).2 = none
            ∧ (strict.takeSource source).1.entries = (lenient.takeSource source).1.entries
            ∧ (strict.takeSource source).1.counts = (lenient.takeSource source).1.counts
        | some k =>
            let before := (lenient.takeLines source.name 1 (source.lines.take k)).1
            (∃ line address user time event status,
              source.lines[k]? = some line
              ∧ Entry.fieldsOfLine line.toList = [address, user, time, event, status]
              ∧ strict.takeSource source
                = (
                    {
                      strict with
                      entries := before.entries,
                      counts :=
                        {
                          before.counts with
                          linesRead := before.counts.linesRead + 1,
                          filesRead := intake.counts.filesRead,
                          filesFailed := intake.counts.filesFailed,
                        }
                    },
                    some
                      {
                        source := source.name,
                        line := k + 1,
                        field := String.ofList event,
                      }
                  ))
            ∧ ∀ other : Source,
                other.name = source.name
                → other.lines.take (k + 1) = source.lines.take (k + 1)
                → strict.takeSource other = strict.takeSource source := by
  intro lenient strict
  refine ⟨take_of_skip rfl (.source source), ?_⟩
  split
  · next absent =>
      have others := List.findIdx?_eq_none_iff.mp absent
      obtain ⟨next, _, taken⟩ := takeLines_under others source.name 1
      rw [takeSource_of_takeLines (taken .abort), takeSource_of_takeLines (taken .skip)]
      cases source.breaksOff <;> exact ⟨rfl, rfl, rfl⟩
  · next k found =>
      obtain ⟨inside, lacks, first⟩ := List.findIdx?_eq_some_iff_getElem.mp found
      obtain ⟨field, read⟩ := Entry.lacksTask_eq_true.mp lacks
      obtain ⟨address, user, time, event, status, fields, rfl⟩ :=
        Entry.fieldsOfLine_of_malformedTask read
      have others
          : ∀ earlier ∈ source.lines.take k,
              Entry.lacksTask intake.limit earlier = false := by
        intro earlier member
        obtain ⟨i, bound, rfl⟩ := List.mem_take_iff_getElem.mp member
        exact Bool.eq_false_iff.mpr (first i (by omega))
      obtain ⟨before, limit, passed, stopped⟩ := takeSource_abort others read source.name
      have files
          : before.counts.filesRead = intake.counts.filesRead
            ∧ before.counts.filesFailed = intake.counts.filesFailed := by
        have counted := takeLines_files (intake.under .skip) source.name 1 (source.lines.take k)
        rw [passed] at counted
        exact counted
      -- All that the strict intake sees of a source are the lines up to the one that stops it.
      have sees (other : Source) (name : other.name = source.name)
          (same : other.lines.take (k + 1) = source.lines.take (k + 1))
          : strict.takeSource other
            = (
                before.countLine.under .abort,
                some { source := source.name, line := k + 1, field := String.ofList event }
              ) := by
        obtain ⟨back, lines⟩ := exists_of_take_eq inside same
        rw [stopped other back name lines, List.length_take_of_le (Nat.le_of_lt inside)]
      refine ⟨⟨source.lines[k], address, user, time, event, status, ?_, fields, ?_⟩, ?_⟩
      · exact List.getElem?_eq_getElem inside
      · rw [sees source rfl rfl, passed, ← files.1, ← files.2]
        simp [strict, under, countLine, limit]
      · intro other name same
        rw [sees other name same, sees source rfl rfl]

/-- The third line of a source that breaks off has no task, and neither has the second, which is too
large to be looked at. The strict intake stops at the third.
-/
theorem takeSource_abort_against_skip_third
    : let intake : Intake := { limit := 18 }
      let text := "a\tb\t\tLOGIN\tOK\r\na\tlong\t\tDONE_TASK\tOK\ra\tb\t\tDONE_TASKx\tOK\r\r\nlost"
      let source : Source :=
        { name := "a", bytes := Text.Utf8.encode text.toList, breaksOff := true }
      let strict := (intake.under .abort).takeSource source
      ((intake.under .skip).takeSource source).2 = none
      ∧ (strict.1.counts, strict.2)
        = (
            { linesRead := 3, stored := 1, tooLarge := 1 },
            some { source := "a", line := 3, field := "DONE_TASKx" }
          )
      ∧ ∀ other : Source,
          other.name = source.name
          → other.lines.take 3 = source.lines.take 3
          → (intake.under .abort).takeSource other = strict := by
  intro intake text source strict
  have found : source.lines.findIdx? (Entry.lacksTask intake.limit) = some 2 := by
    decide +kernel
  have against := takeSource_abort_against_skip intake source
  simp only [found] at against
  obtain ⟨passed, _, unseen⟩ := against
  exact ⟨passed, by decide +kernel, unseen⟩

end Intake

end Logbook
