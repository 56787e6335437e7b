import Logbook.Instant.Spelling
import Logbook.Proofs.Instant.Numbers
import Logbook.Proofs.Text.Numerals
import Logbook.Proofs.Text.Runs

/-! The ways to spell a time.
The same six numbers may be written with zeros and white space in front, and the year with a sign.
Each number ends before a mark, before the space between year and hour or where the text ends, so
the reader takes exactly its digits, and every spelling is read as the instant of its numbers.
-/

namespace Logbook.Instant

open Text

-----------------------------------------------------------------------------------------
-- The spellings
-----------------------------------------------------------------------------------------

/-- A number in at most two digits, behind any white space. -/
inductive SpellsNumber (n : Nat) : List Char → Prop
  | digits {gap numeral : List Char} (blank : ∀ c ∈ gap, isBlank c = true)
    (numeral_of : IsNumeral n numeral) (short : numeral.length ≤ 2)
    : SpellsNumber n (gap ++ numeral)

/-- A year in at most four digits, or in any number of digits behind a sign. White space may stand
in front, but not between the sign and the digits.
-/
inductive SpellsYear : Int → List Char → Prop
  | unsigned {gap numeral : List Char} {n : Nat} (blank : ∀ c ∈ gap, isBlank c = true)
    (numeral_of : IsNumeral n numeral) (short : numeral.length ≤ 4)
    : SpellsYear n (gap ++ numeral)
  | plus {gap numeral : List Char} {n : Nat} (blank : ∀ c ∈ gap, isBlank c = true)
    (numeral_of : IsNumeral n numeral)
    : SpellsYear n (gap ++ '+' :: numeral)
  | minus {gap numeral : List Char} {n : Nat} (blank : ∀ c ∈ gap, isBlank c = true)
    (numeral_of : IsNumeral n numeral)
    : SpellsYear (-n) (gap ++ '-' :: numeral)

/-- The parts of a time, between the marks that keep them apart. -/
def joined (day month year : List Char) (space : Char) (hour minute second : List Char)
    : List Char :=
  day ++ '.' :: (month ++ '.' :: (year ++ space :: (hour ++ ':' :: (minute ++ ':' :: second))))

/-- A text writes the numbers of a time in their order, with white space behind the year and, where
one likes, in front of every number and at the end.
-/
inductive Numbers.SpelledAs (numbers : Numbers) : List Char → Prop
  | parts {day month year hour minute second ending : List Char} {space : Char}
    (spells_day : SpellsNumber numbers.day day) (spells_month : SpellsNumber numbers.month month)
    (spells_year : SpellsYear numbers.year year) (blank : isBlank space = true)
    (spells_hour : SpellsNumber numbers.hour hour)
    (spells_minute : SpellsNumber numbers.minute minute)
    (spells_second : SpellsNumber numbers.second second)
    (ending_blank : ∀ c ∈ ending, isBlank c = true)
    : SpelledAs numbers (joined day month year space hour minute second ++ ending)

-----------------------------------------------------------------------------------------
-- Numbers are read behind white space
-----------------------------------------------------------------------------------------

/-- A numeral is not white space, so a gap before it ends where it begins. -/
theorem endsRun_isBlank_numeral {n : Nat} {numeral : List Char} (rest : List Char)
    (h : IsNumeral n numeral)
    : EndsRun isBlank (numeral ++ rest) :=
  endsRun_append rest h.ne_nil fun _ hc => isBlank_eq_false_of_isDigit (h.isDigit hc)

/-- A numeral that fits the width is read whole behind any gap. -/
theorem readNumber?_numeral {width n : Nat} {gap numeral rest : List Char}
    (blank : ∀ c ∈ gap, isBlank c = true) (h : IsNumeral n numeral)
    (fits : numeral.length ≤ width) (ends : EndsRun Char.isDigit rest)
    : readNumber? width (gap ++ (numeral ++ rest)) = some (n, rest) := by
  have taken : ((numeral ++ rest).take width).takeWhile Char.isDigit = numeral := by
    rw [List.take_append, List.take_of_length_le fits,
      takeWhile_run (fun _ hc => h.isDigit hc) (ends.take _)]
  unfold readNumber?
  rw [skipBlanks_gap blank (endsRun_isBlank_numeral rest h)]
  simp [taken, h.ne_nil, h.digitsValue_eq]

theorem SpellsNumber.readNumber?_append {n : Nat} {text rest : List Char} (h : SpellsNumber n text)
    (ends : EndsRun Char.isDigit rest)
    : readNumber? 2 (text ++ rest) = some (n, rest) := by
  obtain ⟨blank, numeral_of, short⟩ := h
  rw [List.append_assoc]
  exact readNumber?_numeral blank numeral_of short ends

/-- The digits behind the sign of a year are read up to the first year of the calendar. -/
theorem readYearDigits?_numeral {n : Nat} {numeral rest : List Char} (h : IsNumeral n numeral)
    (ends : EndsRun Char.isDigit rest)
    : readYearDigits? (numeral ++ rest)
      = if n ≤ firstYear.natAbs then some (n, rest) else none := by
  have taken := takeWhile_run (fun _ hc => h.isDigit hc) ends
  unfold readYearDigits?
  by_cases bound : n ≤ firstYear.natAbs
  · simp [taken, h.ne_nil, digitsUpTo?_eq, h.digitsValue_eq, bound]
  · simp [taken, h.ne_nil, digitsUpTo?_eq, h.digitsValue_eq, bound]

/-- A year without a sign is read behind any gap from at most four digits. -/
theorem readYear?_unsigned {n : Nat} {gap numeral rest : List Char}
    (blank : ∀ c ∈ gap, isBlank c = true) (h : IsNumeral n numeral) (short : numeral.length ≤ 4)
    (ends : EndsRun Char.isDigit rest)
    : readYear? (gap ++ (numeral ++ rest)) = some ((n : Int), rest) := by
  have read := readNumber?_numeral (List.forall_mem_nil _) h short ends
  rw [List.nil_append] at read
  have noSign {sign : Char} {more : List Char} (mark : sign.isDigit = false)
      : numeral ++ rest ≠ sign :: more := by
    intro same
    have ends := endsRun_append rest h.ne_nil fun _ hc => congrArg Bool.not (h.isDigit hc)
    rw [same, endsRun_cons] at ends
    simp [mark] at ends
  rw [readYear?, skipBlanks_gap blank (endsRun_isBlank_numeral rest h)]
  split
  · next same => exact absurd same (noSign rfl)
  · next same => exact absurd same (noSign rfl)
  · rw [read]
    rfl

/-- A year is read up to the number of the first year of the calendar, on either side of year zero;
without a sign it always is one of these.
-/
theorem SpellsYear.readYear?_append {year : Int} {text rest : List Char} (h : SpellsYear year text)
    (ends : EndsRun Char.isDigit rest)
    : readYear? (text ++ rest)
      = if year.natAbs ≤ firstYear.natAbs then some (year, rest) else none := by
  cases h with
  | @unsigned gap numeral n blank numeral_of short =>
      have small : n < 10 ^ 4 := numeral_of.lt_of_length_le (by decide) short
      have bound : (n : Int).natAbs ≤ firstYear.natAbs := by
        rw [Int.natAbs_natCast]
        exact Nat.le_trans (Nat.le_of_lt small) (by decide)
      rw [List.append_assoc, readYear?_unsigned blank numeral_of short ends, if_pos bound]
  | @plus gap numeral n blank numeral_of =>
      rw [List.append_assoc, List.cons_append, readYear?,
        skipBlanks_gap blank (endsRun_cons.mpr (by decide))]
      simp only [readYearDigits?_numeral numeral_of ends, Int.natAbs_natCast]
      split <;> rfl
  | @minus gap numeral n blank numeral_of =>
      rw [List.append_assoc, List.cons_append, readYear?,
        skipBlanks_gap blank (endsRun_cons.mpr (by decide))]
      simp only [readYearDigits?_numeral numeral_of ends, Int.natAbs_neg, Int.natAbs_natCast]
      split <;> rfl

-----------------------------------------------------------------------------------------
-- Every spelling is read
-----------------------------------------------------------------------------------------

@[simp]
theorem readMark?_cons (mark : Char) (rest : List Char)
    : readMark? mark (mark :: rest) = some rest := by
  simp [readMark?]

/-- A year beyond the first one, which the reader refuses at once, has no instants. -/
theorem Numbers.instant?_of_beyond {numbers : Numbers}
    (beyond : ¬numbers.year.natAbs ≤ firstYear.natAbs)
    : numbers.instant? = none := by
  apply Numbers.instant?_eq_none_iff.mpr
  intro exist
  have range := exist.year
  unfold firstYear at beyond
  omega

/-- One more white space may stand in front of a number. -/
theorem SpellsNumber.behind {n : Nat} {text : List Char} {space : Char} (h : SpellsNumber n text)
    (blank : isBlank space = true)
    : SpellsNumber n (space :: text) := by
  obtain ⟨gap_blank, numeral_of, short⟩ := h
  rw [← List.cons_append]
  exact .digits (List.forall_mem_cons.mpr ⟨blank, gap_blank⟩) numeral_of short

theorem isDigit_eq_false_of_isBlank {c : Char} (h : isBlank c = true) : c.isDigit = false := by
  cases digit : c.isDigit with
  | false => rfl
  | true =>
      rw [isBlank_eq_false_of_isDigit digit] at h
      contradiction

section Joined

variable {day month year hour minute second : List Char} {space : Char}

/-- White space at both ends is dropped, since a time begins and ends with a digit. -/
theorem trim_joined {gap ending : List Char} {n m : Nat} (gap_blank : ∀ c ∈ gap, isBlank c = true)
    (numeral_of : IsNumeral n day) (spells_second : SpellsNumber m second)
    (ending_blank : ∀ c ∈ ending, isBlank c = true)
    : trim (joined (gap ++ day) month year space hour minute second ++ ending)
      = joined day month year space hour minute second := by
  have starts : EndsRun isBlank (joined day month year space hour minute second ++ ending) := by
    rw [joined, List.append_assoc]
    exact endsRun_isBlank_numeral _ numeral_of
  have ends : EndsRun isBlank (joined day month year space hour minute second).reverse := by
    cases spells_second with
    | @digits before numeral before_blank last short =>
        have cut : joined day month year space hour minute (before ++ numeral)
            = joined day month year space hour minute before ++ numeral := by
          simp [joined]
        rw [cut, List.reverse_append]
        refine endsRun_append _ (by simp [last.ne_nil]) fun c hc => ?_
        exact isBlank_eq_false_of_isDigit (last.isDigit (List.mem_reverse.mp hc))
  have around := trim_gaps gap_blank ending_blank starts ends
  rwa [← List.append_assoc, joined, ← List.append_assoc] at around

/-- A time is read number by number. A year that is refused at once has no instants. -/
theorem read?_of_trim {numbers : Numbers} {text : List Char}
    (trimmed : trim text = joined day month year space hour minute second)
    (spells_day : SpellsNumber numbers.day day) (spells_month : SpellsNumber numbers.month month)
    (spells_year : SpellsYear numbers.year year) (blank : isBlank space = true)
    (spells_hour : SpellsNumber numbers.hour hour)
    (spells_minute : SpellsNumber numbers.minute minute)
    (spells_second : SpellsNumber numbers.second second)
    : read? text = numbers.instant? := by
  have mark {c : Char} {rest : List Char} (h : c.isDigit = false)
      : EndsRun Char.isDigit (c :: rest) :=
    endsRun_cons.mpr h
  have readHour {rest : List Char} (ends : EndsRun Char.isDigit rest)
      : readNumber? 2 (space :: (hour ++ rest)) = some (numbers.hour, rest) :=
    (spells_hour.behind blank).readNumber?_append ends
  have readSecond : readNumber? 2 second = some (numbers.second, []) := by
    have read := spells_second.readNumber?_append endsRun_nil
    rwa [List.append_nil] at read
  rw [read?, trimmed, joined, spells_day.readNumber?_append (mark rfl)]
  simp only [Option.bind_eq_bind, Option.bind_some, readMark?_cons]
  rw [spells_month.readNumber?_append (mark rfl)]
  simp only [Option.bind_some, readMark?_cons]
  rw [spells_year.readYear?_append (mark (isDigit_eq_false_of_isBlank blank))]
  by_cases bound : numbers.year.natAbs ≤ firstYear.natAbs
  · rw [if_pos bound]
    simp only [Option.bind_some]
    rw [readHour (mark rfl)]
    simp only [Option.bind_some, readMark?_cons]
    rw [spells_minute.readNumber?_append (mark rfl)]
    simp only [Option.bind_some, readMark?_cons]
    rw [readSecond]
    rfl
  · rw [if_neg bound, Numbers.instant?_of_beyond bound]
    rfl

end Joined

/-- A spelling is read as the instant of its numbers, and is refused when they have none. -/
theorem Numbers.SpelledAs.read?_eq {numbers : Numbers} {text : List Char}
    (h : numbers.SpelledAs text)
    : read? text = numbers.instant? := by
  obtain ⟨⟨gap_blank, numeral_of, short⟩, spells_month, spells_year, blank, spells_hour,
    spells_minute, spells_second, ending_blank⟩ := h
  have spells_day := SpellsNumber.digits (List.forall_mem_nil _) numeral_of short
  exact read?_of_trim (trim_joined gap_blank numeral_of spells_second ending_blank) spells_day
    spells_month spells_year blank spells_hour spells_minute spells_second

end Logbook.Instant
