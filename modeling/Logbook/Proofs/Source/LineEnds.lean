import Logbook.Proofs.Source.Scanning
import Mathlib.Data.List.Chain

/-! Lines that are each ended in a way of their own, by a newline, a carriage return, or both, are
the lines of the text so written. A carriage return and the newline behind an empty line would be
taken for one end, so these two may not meet.
-/

namespace Logbook.Source

open Text.Utf8

/-- The ways to end a line. -/
inductive LineEnd where
  | newline
  | carriageReturn
  | returnNewline
deriving DecidableEq, Repr

/-- How a line end is written. -/
def LineEnd.text : LineEnd → List Char
  | newline => ['\n']
  | carriageReturn => ['\r']
  | returnNewline => ['\r', '\n']

/-- A line and the way in which it is ended. -/
structure EndedLine where
  text : String
  ending : LineEnd
deriving DecidableEq, Repr

/-- A carriage return that ends the line does not meet a newline that ends an empty next line. -/
def EndedLine.KeptApart (line next : EndedLine) : Prop :=
  line.ending = .carriageReturn → ¬(next.text = "" ∧ next.ending = .newline)

instance (line next : EndedLine) : Decidable (line.KeptApart next) :=
  inferInstanceAs (Decidable (_ → ¬(_ ∧ _)))

/-- A text in which each of the lines is followed by its end. -/
def ended (lines : List EndedLine) : List Char :=
  lines.flatMap fun line => line.text.toList ++ line.ending.text

theorem ended_cons (line : EndedLine) (rest : List EndedLine)
    : ended (line :: rest) = line.text.toList ++ (line.ending.text ++ ended rest) := by
  rw [ended, List.flatMap_cons, ← ended, List.append_assoc]

/-- The pass drops a line end whole, and nothing else unless a newline follows a carriage return. -/
theorem dropLineEnd_encode {ending : LineEnd} {rest : List UInt8}
    (apart : ending = .carriageReturn → rest.head? ≠ some newline)
    : dropLineEnd (encode ending.text ++ rest) = rest := by
  cases ending with
  | newline => rfl
  | returnNewline => rfl
  | carriageReturn => exact if_neg fun met => apart rfl met.2

theorem endsRun_encode_ending (ending : LineEnd) (rest : List UInt8)
    : Text.EndsRun isInLine (encode ending.text ++ rest) := by
  cases ending <;> exact Text.endsRun_cons.mpr rfl

/-- Ended lines begin with a newline only where it ends an empty first line. -/
theorem empty_of_head?_encode_ended {line : EndedLine} {rest : List EndedLine}
    (noLineEnd : NoLineEnd line.text.toList)
    (first : (encode (ended (line :: rest))).head? = some newline)
    : line.text = "" ∧ line.ending = .newline := by
  rw [ended_cons, encode_append, encode_append] at first
  cases text : line.text.toList with
  | nil =>
      rw [text] at first
      refine ⟨String.toList_eq_nil_iff.mp text, ?_⟩
      cases ending : line.ending with
      | newline => rfl
      | carriageReturn | returnNewline =>
          rw [ending] at first
          cases first
  | cons c more =>
      obtain ⟨lead, tail, bytes, -⟩ := readChar_utf8EncodeChar c []
      rw [text, encode_cons, bytes] at first
      have member : newline ∈ encode line.text.toList := by
        rw [text, encode_cons, bytes, ← Option.some.inj first]
        exact List.mem_cons_self
      exact absurd (newline_mem_encode member) noLineEnd.1

/-- One pass over the text cuts it into the lines again, by induction on the lines. -/
theorem scan_encode_ended {lines : List EndedLine}
    (noLineEnd : ∀ line ∈ lines, NoLineEnd line.text.toList)
    (apart : lines.IsChain EndedLine.KeptApart)
    : scan (encode (ended lines)) = lines.map fun line => encode line.text.toList := by
  induction lines with
  | nil => exact scan_nil
  | cons line rest ih =>
      obtain ⟨own, later⟩ := List.forall_mem_cons.mp noLineEnd
      have inLine : ∀ byte ∈ encode line.text.toList, isInLine byte = true :=
        isInLine_of_not_mem (own.1 ∘ newline_mem_encode) (own.2 ∘ carriageReturn_mem_encode)
      have behind : line.ending = .carriageReturn → (encode (ended rest)).head? ≠ some newline := by
        intro returned first
        cases rest with
        | nil => cases first
        | cons next more =>
            have next_own := later next List.mem_cons_self
            exact (List.isChain_cons_cons.mp apart).1 returned
              (empty_of_head?_encode_ended next_own first)
      have ends : encode line.ending.text ++ encode (ended rest) ≠ [] := by
        cases line.ending <;> exact List.cons_ne_nil _ _
      rw [ended_cons, encode_append, encode_append,
        scan_append inLine (endsRun_encode_ending line.ending _) (List.append_ne_nil_of_right_ne_nil _ ends),
        dropLineEnd_encode behind, ih later apart.tail, List.map_cons]

/-- A source that delivers lines without line ends, each with an end of its own, has these lines. -/
theorem lines_ended {lines : List EndedLine} (name : String)
    (noLineEnd : ∀ line ∈ lines, NoLineEnd line.text.toList)
    (apart : lines.IsChain EndedLine.KeptApart)
    : Source.lines { name, bytes := encode (ended lines) } = lines.map EndedLine.text := by
  rw [Source.lines, byteLines_eq_scan, scan_encode_ended noLineEnd apart]
  simp [decode_encode]

example
    : let lines : List EndedLine :=
        [{ text := "a", ending := .carriageReturn }, { text := "", ending := .newline }]
      Source.lines { name := "log", bytes := encode (ended lines) } = ["a"] := by
  decide +kernel

/-- A text in which each of the lines is followed by a newline. -/
def written (lines : List String) : List Char := lines.flatMap fun line => line.toList ++ ['\n']

theorem written_eq_ended (texts : List String)
    : written texts
      = ended (texts.map fun text => { text, ending := .newline }) := by
  rw [written, ended, List.flatMap_map]
  rfl

/-- A source that delivers lines without line ends, each followed by a newline, has these lines. -/
theorem lines_written {texts : List String} (name : String)
    (h : ∀ text ∈ texts, NoLineEnd text.toList)
    : Source.lines { name, bytes := encode (written texts) } = texts := by
  let lines : List EndedLine := texts.map fun text => { text, ending := .newline }
  have noLineEnd : ∀ line ∈ lines, NoLineEnd line.text.toList := by
    simpa [lines] using h
  have apart : lines.IsChain EndedLine.KeptApart :=
    (List.pairwise_map.mpr (List.pairwise_of_forall fun _ _ => nofun)).isChain
  rw [written_eq_ended, lines_ended name noLineEnd apart]
  simp [lines, Function.comp_def]

end Logbook.Source
