import Logbook.Proofs.Entry.LineRoundTrip
import Logbook.Proofs.Intake.Sessions
import Logbook.Proofs.Source.LineEnds

/-! What a session of sources has stored can be written out and taken in again.
The invariant of the session is that every stored entry has a line of its own, without line ends,
that is read back under every limit it fits.
-/

namespace Logbook

open Text.Utf8

namespace Entry

/-- The line of the entry fits the limit. -/
def fits (limit : Nat) (entry : Entry) : Bool := entry.line.utf8ByteSize ≤ limit

/-- The entry can be written out as a line and taken in again. -/
structure Reloadable (entry : Entry) : Prop where
  rereadable : entry.Rereadable
  noLineEnd : NoLineEnd entry.line.toList

/-- An entry read from a line without line ends is reloadable: its free texts are parts of that
line, and no other field brings a control character.
-/
theorem Reloadable.of_ofLine {limit : Nat} {line : String} {entry : Entry}
    (noLineEnd : NoLineEnd line.toList) (h : ofLine limit line = .ok entry)
    : entry.Reloadable := by
  obtain ⟨event, address, user, _⟩ := ofLine_eq_ok h
  have kept {c : Char} (hc : c ∈ entry.line.toList) (noTab : c ≠ '\t') (control : c < ' ')
      : c ∈ line.toList := by
    rcases mem_line hc noTab control with hc | hc
    · exact (Text.mem_of_mem_splitOn address hc).1
    · exact (Text.mem_of_mem_splitOn user hc).1
  refine ⟨.of_ofLine h, ?_, ?_⟩
  · exact fun hc => noLineEnd.1 (kept hc (by decide) (by decide))
  · exact fun hc => noLineEnd.2 (kept hc (by decide) (by decide))

end Entry

namespace Intake

theorem allStored_takeSource {intake : Intake} (source : Source)
    (h : intake.AllStored Entry.Reloadable)
    : (intake.takeSource source).1.AllStored Entry.Reloadable := by
  refine takeSource_induction h ?_ (fun _ kept => kept) (fun _ kept => kept)
  intro line member intake number kept
  exact kept.takeLine source.name number fun _ _ read =>
    .of_ofLine (Source.noLineEnd_of_mem_lines member) read

/-- Whatever sources a session takes in, all that it stores is reloadable. -/
theorem allStored_session {intake : Intake} (sources : List Source)
    (h : intake.AllStored Entry.Reloadable)
    : (intake.session (sources.map .source)).AllStored Entry.Reloadable := by
  refine session_induction h ?_
  intro feed member intake kept
  obtain ⟨source, _, rfl⟩ := List.mem_map.mp member
  exact allStored_takeSource source kept

/-- The intake after the lines of the entries: those that fit are stored, the others counted. -/
def reload (intake : Intake) (entries : List Entry) : Intake :=
  {
    intake with
    entries := intake.entries ++ (entries.filter (Entry.fits intake.limit)).toArray,
    counts :=
      {
        intake.counts with
        linesRead := intake.counts.linesRead + entries.length,
        stored := intake.counts.stored + entries.countP (Entry.fits intake.limit),
        tooLarge := intake.counts.tooLarge + entries.countP (!Entry.fits intake.limit ·),
      },
  }

theorem takeLine_line {entry : Entry} (h : entry.Rereadable) (intake : Intake) (source : String)
    (number : Nat)
    : intake.takeLine source number entry.line = (intake.reload [entry], none) := by
  have read := h.ofLine_line intake.limit
  by_cases fits : entry.fits intake.limit = true
  · have small : ¬intake.limit < entry.line.utf8ByteSize := by
      simpa [Entry.fits] using fits
    rw [if_neg small] at read
    simp [takeLine, read, reload, fits, store, countLine]
  · have large : intake.limit < entry.line.utf8ByteSize := by
      simpa [Entry.fits] using fits
    rw [if_pos large] at read
    simp [takeLine, read, reload, fits, skip, countLine, Counts.skip]

theorem reload_cons (intake : Intake) (entry : Entry) (entries : List Entry)
    : (intake.reload [entry]).reload entries = intake.reload (entry :: entries) := by
  by_cases fits : entry.fits intake.limit = true <;>
    simp [reload, fits, Nat.add_assoc, Nat.add_comm 1]

/-- The lines of reloadable entries are stored or counted as too large, by induction on them. -/
theorem takeLines_lines {entries : List Entry} (h : ∀ entry ∈ entries, entry.Rereadable)
    (intake : Intake) (source : String) (number : Nat)
    : intake.takeLines source number (entries.map Entry.line)
      = (intake.reload entries, none) := by
  induction entries generalizing intake number with
  | nil => simp [takeLines, reload]
  | cons entry rest ih =>
      obtain ⟨first, later⟩ := List.forall_mem_cons.mp h
      rw [List.map_cons, takeLines, takeLine_line first]
      simp only [ih later, reload_cons]

/-- The stored entries written out line by line and taken in afresh under any limit: the entries
whose lines fit are stored in their order, the others are counted as too large, and nothing else
goes wrong.
-/
theorem takeSource_written_session (policy : Policy) (limit : Nat) (sources : List Source)
    (nextPolicy : Policy) (nextLimit : Nat) (name : String)
    : let stored := (session { policy, limit } (sources.map .source)).entries.toList
      let kept := stored.filter fun entry => entry.line.utf8ByteSize ≤ nextLimit
      let dump : Source := { name, bytes := encode (Source.written (stored.map Entry.line)) }
      takeSource { policy := nextPolicy, limit := nextLimit } dump
        = (
            {
              policy := nextPolicy,
              limit := nextLimit,
              entries := kept.toArray,
              counts :=
                {
                  filesRead := 1,
                  linesRead := stored.length,
                  stored := kept.length,
                  tooLarge := stored.length - kept.length,
                },
            },
            none
          )
      ∧ ((∀ entry ∈ stored, entry.line.utf8ByteSize ≤ nextLimit) → kept = stored) := by
  intro stored kept dump
  have reloadable : ∀ entry ∈ stored, entry.Reloadable := by
    intro entry member
    exact allStored_session sources (by simp [AllStored]) entry (Array.mem_toList_iff.mp member)
  have lines : dump.lines = stored.map Entry.line := by
    refine Source.lines_written name fun text member => ?_
    obtain ⟨entry, he, rfl⟩ := List.mem_map.mp member
    exact (reloadable entry he).noLineEnd
  refine ⟨?_, fun fits => List.filter_eq_self.mpr (by simpa using fits)⟩
  have storedCount : stored.countP (Entry.fits nextLimit) = kept.length :=
    List.countP_eq_length_filter
  have skippedCount
      : stored.countP (!Entry.fits nextLimit ·) = stored.length - kept.length := by
    have := List.length_eq_countP_add_countP (Entry.fits nextLimit) (l := stored)
    simp only [Bool.not_eq_true, Bool.decide_eq_false] at this
    omega
  have same : stored.filter (Entry.fits nextLimit) = kept := rfl
  rw [takeSource, lines, takeLines_lines fun entry he => (reloadable entry he).rereadable]
  simp [reload, countFile, storedCount, skippedCount, same, dump]

/-- Two sources, one with a lone carriage return and one that breaks off behind a byte that is no
text: both stored entries are there again.
-/
theorem takeSource_written_session_whole
    : let sources : List Source :=
        [
          { name := "a", bytes := encode "::1\tÄnn\t\tSOLVE_TASK-7\tOK\r\tx\n".toList },
          {
            name := "b",
            bytes := 0xFF :: encode "\tBo\t1.2.3 4:5:60\tLOGIN\t?\t\r\nlost".toList,
            breaksOff := true,
          }
        ]
      let stored := (session { policy := .skip, limit := 40 } (sources.map .source)).entries.toList
      stored.length = 2
      ∧ (∀ entry ∈ stored, entry.line.utf8ByteSize ≤ 40)
      ∧ stored.filter (fun entry => entry.line.utf8ByteSize ≤ 40) = stored := by
  intro sources stored
  have fits : ∀ entry ∈ stored, entry.line.utf8ByteSize ≤ 40 := by decide +kernel
  refine ⟨by decide +kernel, fits, ?_⟩
  exact (takeSource_written_session .skip 40 sources .abort 40 "dump").2 fits

end Intake

end Logbook
