import Logbook.Proofs.Source.TerminatedLines
import Logbook.Proofs.Text.Runs

/-! The lines of a source are those that one pass over its bytes cuts.
The pass ends a line at a newline, at a carriage return, and at both together, and knows nothing of
stretches. Of a source that breaks off it is given the bytes up to the last newline.
-/

namespace Logbook.Source

open Text

-----------------------------------------------------------------------------------------
-- One pass over the bytes
-----------------------------------------------------------------------------------------

/-- The byte belongs to a line and does not end it. -/
def isInLine (byte : UInt8) : Bool := byte != newline && byte != carriageReturn

/-- What follows the line end at the front. A newline right behind a carriage return belongs to the
same line end.
-/
def dropLineEnd : List UInt8 → List UInt8
  | [] => []
  | byte :: rest =>
      if byte = carriageReturn ∧ rest.head? = some newline then rest.tail else rest

theorem dropLineEnd_cons_length (byte : UInt8) (rest : List UInt8)
    : (dropLineEnd (byte :: rest)).length ≤ rest.length := by
  rw [dropLineEnd]
  split
  · simp
  · exact Nat.le_refl _

theorem dropLineEnd_dropWhile_length (head : UInt8) (rest : List UInt8)
    : (dropLineEnd ((head :: rest).dropWhile isInLine)).length ≤ rest.length := by
  have bound := (List.dropWhile_sublist isInLine (l := rest)).length_le
  rw [List.dropWhile_cons]
  split
  · cases found : rest.dropWhile isInLine with
    | nil => exact Nat.zero_le _
    | cons byte more =>
        rw [found, List.length_cons] at bound
        have := dropLineEnd_cons_length byte more
        omega
  · exact dropLineEnd_cons_length head rest

/-- One line off the front of a byte sequence, together with its end. -/
def lineStep : Step UInt8 (List UInt8) :=
  {
    read :=
      fun head rest =>
        (
          (head :: rest).takeWhile isInLine,
          dropLineEnd ((head :: rest).dropWhile isInLine)
        ),
    shortens := dropLineEnd_dropWhile_length,
  }

/-- The lines that one pass from left to right cuts a byte sequence into. What is left behind the
last line end is a line when it is not empty.
-/
def scan (bytes : List UInt8) : List (List UInt8) := lineStep.readAll bytes

@[simp]
theorem scan_nil : scan [] = [] := lineStep.readAll_nil

/-- The pass takes the line at the front and goes on behind its end. -/
theorem scan_append {line tail : List UInt8} (inLine : ∀ byte ∈ line, isInLine byte = true)
    (ends : EndsRun isInLine tail) (nonempty : line ++ tail ≠ [])
    : scan (line ++ tail) = line :: scan (dropLineEnd tail) := by
  obtain ⟨head, rest, bytes⟩ := List.exists_cons_of_ne_nil nonempty
  have taken : (head :: rest).takeWhile isInLine = line := by
    rw [← bytes, takeWhile_run inLine ends]
  have left : (head :: rest).dropWhile isInLine = tail := by
    rw [← bytes, dropWhile_run inLine ends]
  rw [scan, bytes, Step.readAll_cons]
  simp only [lineStep, taken, left]
  rfl

-----------------------------------------------------------------------------------------
-- The lines of one stretch
-----------------------------------------------------------------------------------------

theorem isInLine_of_not_mem {line : List UInt8} (noNewline : newline ∉ line)
    (noReturn : carriageReturn ∉ line)
    : ∀ byte ∈ line, isInLine byte = true := by
  intro byte member
  have newline_ne : byte ≠ newline := fun same => noNewline (same ▸ member)
  have return_ne : byte ≠ carriageReturn := fun same => noReturn (same ▸ member)
  simp [isInLine, newline_ne, return_ne]

/-- A stretch without a carriage return is one line. -/
theorem linesOfStretch_eq_singleton {stretch : List UInt8} (h : carriageReturn ∉ stretch)
    : linesOfStretch stretch = [stretch] := by
  have last : stretch.getLast? ≠ some carriageReturn := fun last =>
    h (List.mem_of_getLast? last)
  rw [linesOfStretch, dropFinalReturn, if_neg last, List.splitOn_eq_singleton h]

/-- A carriage return at the end of a stretch begins no further line. -/
theorem linesOfStretch_append_return {line : List UInt8} (noReturn : carriageReturn ∉ line)
    : linesOfStretch (line ++ [carriageReturn]) = [line] := by
  simp [linesOfStretch, dropFinalReturn, List.splitOn_eq_singleton noReturn]

/-- Any other carriage return ends one line of a stretch before the further ones. -/
theorem linesOfStretch_append_cons {line more : List UInt8} (noReturn : carriageReturn ∉ line)
    (nonempty : more ≠ [])
    : linesOfStretch (line ++ carriageReturn :: more) = line :: linesOfStretch more := by
  have last : (line ++ carriageReturn :: more).getLast? = more.getLast? := by
    rw [List.getLast?_append, List.getLast?_cons_of_ne_nil nonempty,
      List.getLast?_eq_some_getLast nonempty, Option.some_or]
  have dropped
      : dropFinalReturn (line ++ carriageReturn :: more)
        = line ++ carriageReturn :: dropFinalReturn more := by
    unfold dropFinalReturn
    rw [last]
    split
    · rw [List.dropLast_append_of_ne_nil (List.cons_ne_nil _ _),
        List.dropLast_cons_of_ne_nil nonempty]
    · rfl
  rw [linesOfStretch, dropped, List.splitOn_append_cons_self_of_not_mem noReturn, linesOfStretch]

/-- The pass cuts a stretch, up to the newline behind it or to the end of the bytes, into the lines
of the stretch. The induction is on its carriage returns: the last one may belong to the newline.
-/
theorem scan_stretch_append {stretch tail : List UInt8} (noNewline : newline ∉ stretch)
    (ends : EndsRun (· != newline) tail) (nonempty : stretch ++ tail ≠ [])
    : scan (stretch ++ tail) = linesOfStretch stretch ++ scan tail.tail := by
  have tailEnds : EndsRun isInLine tail := by
    intro byte first
    have : byte = newline := by simpa using ends byte first
    simp [isInLine, this]
  induction stretch using cuts_induction carriageReturn with
  | uncut line noReturn =>
      have behind : dropLineEnd tail = tail.tail := by
        cases tail with
        | nil => rfl
        | cons byte rest =>
            have : byte = newline := by simpa using ends
            rw [this]
            rfl
      rw [scan_append (isInLine_of_not_mem noNewline noReturn) tailEnds nonempty, behind,
        linesOfStretch_eq_singleton noReturn]
      rfl
  | cut line more noReturn ih =>
      have inLine : ∀ byte ∈ line, isInLine byte = true :=
        isInLine_of_not_mem (fun member => noNewline (List.mem_append_left _ member)) noReturn
      have noNewlineBehind : newline ∉ more := fun member =>
        noNewline (List.mem_append_right _ (List.mem_cons_of_mem _ member))
      have first
          : scan (line ++ (carriageReturn :: more ++ tail))
            = line :: scan (dropLineEnd (carriageReturn :: more ++ tail)) :=
        scan_append inLine (by simp [isInLine]) (by simp)
      rw [List.append_assoc, first]
      cases more with
      | nil =>
          rw [linesOfStretch_append_return noReturn]
          cases tail with
          | nil => rfl
          | cons byte rest =>
              have : byte = newline := by simpa using ends
              rw [this]
              rfl
      | cons byte rest =>
          have other : byte ≠ newline := fun same => noNewlineBehind (same ▸ List.mem_cons_self)
          have behind : dropLineEnd (carriageReturn :: byte :: rest ++ tail)
              = byte :: rest ++ tail := by
            simp [dropLineEnd, other]
          rw [behind, ih noNewlineBehind (by simp),
            linesOfStretch_append_cons noReturn (List.cons_ne_nil _ _)]
          rfl

-----------------------------------------------------------------------------------------
-- The lines of a source
-----------------------------------------------------------------------------------------

/-- A newline ends the first stretch of a source, whether or not the source breaks off. -/
theorem stretches_append_newline {front : List UInt8} (name : String) (rest : List UInt8)
    (breaksOff : Bool) (noNewline : newline ∉ front)
    : stretches { name, bytes := front ++ newline :: rest, breaksOff }
      = front :: stretches { name, bytes := rest, breaksOff } := by
  have nonempty := List.splitOn_ne_nil newline rest
  simp only [stretches, List.splitOn_append_cons_self_of_not_mem noNewline]
  rw [List.dropLast_cons_of_ne_nil nonempty]
  simp [List.getLastD_eq_getLast?, List.getLast?_cons, List.getLast?_eq_some_getLast nonempty]

/-- The lines of a source that is read to its end are those of one pass, by induction on its
newlines.
-/
theorem byteLines_eq_scan (name : String) (bytes : List UInt8)
    : byteLines { name, bytes } = scan bytes := by
  induction bytes using cuts_induction newline with
  | uncut bytes noNewline =>
      cases bytes with
      | nil => simp [byteLines, stretches]
      | cons byte rest =>
          have lines := scan_stretch_append noNewline endsRun_nil (by simp)
          rw [List.append_nil] at lines
          rw [lines, byteLines, stretches, List.splitOn_eq_singleton noNewline]
          simp
  | cut front rest noNewline ih =>
      have lines
          : scan (front ++ newline :: rest) = linesOfStretch front ++ scan rest :=
        scan_stretch_append noNewline (by simp) (by simp)
      rw [lines, ← ih, byteLines, stretches_append_newline name rest false noNewline]
      rfl

example : scan [65, 13, 13, 10, 10, 66, 13, 67] = [[65], [], [], [66], [67]] := by
  decide +kernel

/-- The bytes up to the last newline, and none where there is no newline. -/
def untilLastNewline (bytes : List UInt8) : List UInt8 := dropTrailing (· != newline) bytes

theorem untilLastNewline_of_not_mem {bytes : List UInt8} (noNewline : newline ∉ bytes)
    : untilLastNewline bytes = [] := by
  have behind : ∀ byte ∈ bytes.reverse, (byte != newline) = true := by
    intro byte member
    have : byte ≠ newline := fun same => noNewline (same ▸ List.mem_reverse.mp member)
    simpa using this
  rw [untilLastNewline, dropTrailing, ← List.append_nil bytes.reverse,
    dropWhile_run behind endsRun_nil, List.reverse_nil]

theorem untilLastNewline_append (front rest : List UInt8)
    : untilLastNewline (front ++ newline :: rest)
      = front ++ newline :: untilLastNewline rest := by
  by_cases behind : rest.reverse.dropWhile (· != newline) = [] <;>
    simp [untilLastNewline, dropTrailing, List.dropWhile_append, behind]

/-- A source that breaks off has the stretches of the bytes up to its last newline. -/
theorem stretches_breaksOff (name : String) (bytes : List UInt8)
    : stretches { name, bytes, breaksOff := true }
      = stretches { name, bytes := untilLastNewline bytes } := by
  induction bytes using cuts_induction newline with
  | uncut bytes noNewline =>
      rw [untilLastNewline_of_not_mem noNewline]
      simp [stretches, List.splitOn_eq_singleton noNewline]
  | cut front rest noNewline ih =>
      rw [untilLastNewline_append, stretches_append_newline name rest true noNewline, ih,
        stretches_append_newline name (untilLastNewline rest) false noNewline]

/-- The lines of a source that breaks off are those of one pass up to its last newline. -/
theorem byteLines_breaksOff (name : String) (bytes : List UInt8)
    : byteLines { name, bytes, breaksOff := true } = scan (untilLastNewline bytes) := by
  rw [byteLines, stretches_breaksOff, ← byteLines, byteLines_eq_scan]

end Logbook.Source
