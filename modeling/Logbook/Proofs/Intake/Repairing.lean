import Logbook.Intake
import Logbook.Proofs.Source.Scanning
import Logbook.Proofs.Text.Utf8Repair
import Logbook.Proofs.Text.Utf8Subparts

/-! It makes no difference to an intake whether a source delivers bytes that are no text or the
replacements that stand for them.
The line ends are in the same places, so each line is the repair of a line, and it is read as the
same text.
-/

namespace Logbook

open Text Text.Utf8

namespace Source

-----------------------------------------------------------------------------------------
-- Lines of repaired bytes
-----------------------------------------------------------------------------------------

theorem stretches_repaired (name : String) (bytes : List UInt8) (breaksOff : Bool)
    : stretches { name, bytes := repaired bytes, breaksOff }
      = (stretches { name, bytes, breaksOff }).map repaired := by
  have cut : (repaired bytes).splitOn newline = (bytes.splitOn newline).map repaired :=
    splitOn_repaired (by decide) (by decide) bytes
  have last
      : ((bytes.splitOn newline).map repaired).getLastD []
        = repaired ((bytes.splitOn newline).getLastD []) := by
    rw [List.getLastD_eq_getLast?, List.getLast?_map, List.getLastD_eq_getLast?]
    cases (bytes.splitOn newline).getLast? <;> simp
  simp only [stretches, cut, last, isEmpty_repaired, List.map_append, List.map_dropLast]
  split <;> rfl

/-- A stretch is repaired line by line, by induction on its carriage returns. -/
theorem linesOfStretch_repaired (stretch : List UInt8)
    : linesOfStretch (repaired stretch) = (linesOfStretch stretch).map repaired := by
  have ascii : carriageReturn.toNat < 0x80 := by decide
  have kept {line : List UInt8} (noReturn : carriageReturn ∉ line)
      : carriageReturn ∉ repaired line :=
    fun member => noReturn (mem_of_mem_repaired ascii member (by decide))
  induction stretch using cuts_induction carriageReturn with
  | uncut line noReturn =>
      rw [linesOfStretch_eq_singleton noReturn, linesOfStretch_eq_singleton (kept noReturn)]
      rfl
  | cut line more noReturn ih =>
      rw [repaired_append_ascii ascii]
      by_cases last : more = []
      · rw [last, repaired_nil, linesOfStretch_append_return (kept noReturn),
          linesOfStretch_append_return noReturn]
        rfl
      · have behind : repaired more ≠ [] := by
          rw [← List.isEmpty_eq_false_iff, isEmpty_repaired]
          exact List.isEmpty_eq_false_iff.mpr last
        rw [linesOfStretch_append_cons (kept noReturn) behind, ih,
          linesOfStretch_append_cons noReturn last]
        rfl

theorem byteLines_repaired (name : String) (bytes : List UInt8) (breaksOff : Bool)
    : byteLines { name, bytes := repaired bytes, breaksOff }
      = (byteLines { name, bytes, breaksOff }).map repaired := by
  simp only [byteLines, stretches_repaired, List.flatMap_map, List.map_flatMap,
    linesOfStretch_repaired]

/-- A repaired line is read as the line was. -/
theorem lines_repaired (name : String) (bytes : List UInt8) (breaksOff : Bool)
    : lines { name, bytes := repaired bytes, breaksOff } = lines { name, bytes, breaksOff } := by
  simp only [lines, byteLines_repaired, List.map_map, Function.comp_def, decode_repaired]

end Source

/-- A source may be replaced by the bytes of the text that it is read as, in which a replacement
stands for each longest ill formed part: whether or not the source breaks off, the intake ends in
the same state, with the same interruption.
-/
theorem Intake.takeSource_encode_decode (intake : Intake) (name : String) (bytes : List UInt8)
    (breaksOff : Bool)
    : (∀ text, ReadAs bytes text ↔ text = decode bytes)
      ∧ intake.takeSource { name, bytes := encode (decode bytes), breaksOff }
        = intake.takeSource { name, bytes, breaksOff } := by
  refine ⟨fun _ => readAs_iff, ?_⟩
  have lines := Source.lines_repaired name bytes breaksOff
  rw [repaired] at lines
  rw [takeSource, takeSource, lines]

/-- Characters that lack their last byte end before a carriage return and before the end. -/
example
    : Source.lines { name := "a", bytes := [0xE2, 0x82, 0x0D, 0x0A, 0x41, 0xF0, 0x9F] }
      = ["\uFFFD", "A\uFFFD"] := by
  decide +kernel

end Logbook
