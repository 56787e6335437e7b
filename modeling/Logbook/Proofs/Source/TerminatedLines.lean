import Logbook.Proofs.Text.Splitting
import Logbook.Proofs.Text.Utf8RoundTrip
import Logbook.Source

/-! The lines of a source hold no line end: the bytes of one are cut out, and decoding makes none. -/

namespace Logbook

open Text Text.Utf8

/-- The text ends no line. -/
def NoLineEnd (text : List Char) : Prop := '\n' ∉ text ∧ '\r' ∉ text

namespace Source

theorem newline_mem_encode {text : List Char} (h : newline ∈ encode text) : '\n' ∈ text :=
  mem_of_mem_encode h (by decide)

theorem carriageReturn_mem_encode {text : List Char} (h : carriageReturn ∈ encode text)
    : '\r' ∈ text :=
  mem_of_mem_encode h (by decide)

theorem newline_mem_of_mem_decode {bytes : List UInt8} (h : '\n' ∈ decode bytes)
    : newline ∈ bytes :=
  mem_of_mem_decode h (by unfold NullOrBeyondAscii; decide)

theorem carriageReturn_mem_of_mem_decode {bytes : List UInt8} (h : '\r' ∈ decode bytes)
    : carriageReturn ∈ bytes :=
  mem_of_mem_decode h (by unfold NullOrBeyondAscii; decide)

theorem mem_splitOn_of_mem_stretches {source : Source} {stretch : List UInt8}
    (h : stretch ∈ source.stretches)
    : stretch ∈ source.bytes.splitOn newline := by
  rcases List.mem_append.mp h with terminated | last
  · exact List.dropLast_subset _ terminated
  · split at last
    · cases last
    · have nonempty := List.splitOn_ne_nil newline source.bytes
      rw [List.mem_singleton.mp last, List.getLastD_eq_getLast?,
        List.getLast?_eq_some_getLast nonempty]
      exact List.getLast_mem nonempty

theorem dropFinalReturn_subset (stretch : List UInt8) : dropFinalReturn stretch ⊆ stretch := by
  unfold dropFinalReturn
  split
  · exact List.dropLast_subset _
  · exact List.Subset.refl _

/-- No line of a source holds a line end. -/
theorem noLineEnd_of_mem_lines {source : Source} {line : String} (h : line ∈ source.lines)
    : NoLineEnd line.toList := by
  obtain ⟨bytes, hb, rfl⟩ := List.mem_map.mp h
  obtain ⟨stretch, hs, hb⟩ := List.mem_flatMap.mp hb
  rw [String.toList_ofList]
  constructor
  · intro hc
    have inStretch := dropFinalReturn_subset _
      (mem_of_mem_splitOn hb (newline_mem_of_mem_decode hc)).1
    exact (mem_of_mem_splitOn (mem_splitOn_of_mem_stretches hs) inStretch).2 rfl
  · intro hc
    exact (mem_of_mem_splitOn hb (carriageReturn_mem_of_mem_decode hc)).2 rfl

end Source

end Logbook
