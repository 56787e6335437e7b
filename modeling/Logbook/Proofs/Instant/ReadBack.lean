import Logbook.Proofs.Instant.Spellings

/-! Every written instant is read back as the instant it was.
What is written of an instant is one of the spellings of its numbers.
-/

namespace Logbook.Instant

open Logbook.Text

/-- What is written of an instant are its numbers, joined with a single space. -/
theorem text_eq (t : Instant)
    : t.text
      = joined (digits t.date.day) (digits t.date.month) (yearText t.date.year) ' '
          (digits t.hour) (digits t.minute) (digits t.second) := by
  simp [text, joined]

theorem isDigit_or_sign_of_mem_yearText {year : Int} {c : Char} (hc : c ∈ yearText year)
    : c.isDigit = true ∨ c = '-' ∨ c = '+' := by
  unfold yearText at hc
  split at hc
  · exact Or.inl ((isNumeral_paddedDigits _ _).isDigit hc)
  · rcases List.mem_cons.mp hc with sign | hc
    · rw [sign]
      split <;> simp
    · exact Or.inl ((isNumeral_paddedDigits _ _).isDigit hc)

/-- A written instant consists of digits, signs and the marks between its numbers. -/
theorem isDigit_or_mark_of_mem_text {t : Instant} {c : Char} (hc : c ∈ t.text)
    : c.isDigit = true ∨ c ∈ ['-', '+', '.', ' ', ':'] := by
  have number {n : Nat} (hc : c ∈ digits n) : c.isDigit = true := isDigit_of_mem_digits hc
  simp only [text_eq, joined, List.mem_append, List.mem_cons] at hc
  rcases hc with hc | rfl | hc | rfl | hc | rfl | hc | rfl | hc | rfl | hc
  · exact Or.inl (number hc)
  · simp
  · exact Or.inl (number hc)
  · simp
  · rcases isDigit_or_sign_of_mem_yearText hc with hc | rfl | rfl
    · exact Or.inl hc
    · simp
    · simp
  · simp
  · exact Or.inl (number hc)
  · simp
  · exact Or.inl (number hc)
  · simp
  · exact Or.inl (number hc)

theorem spellsNumber_digits {n : Nat} (h : n < 100) : SpellsNumber n (digits n) :=
  .digits (List.forall_mem_nil _) (isNumeral_digits n) (length_digits_le (by decide) h)

/-- A year is written with four digits when it has no sign, else behind its sign. -/
theorem spellsYear_yearText (year : Int) : SpellsYear year (yearText year) := by
  have numeral_of := isNumeral_paddedDigits 4 year.natAbs
  have noGap : ∀ c ∈ ([] : List Char), isBlank c = true := List.forall_mem_nil _
  unfold yearText
  by_cases plain : 0 ≤ year ∧ year ≤ 9999
  · have short : (paddedDigits 4 year.natAbs).length ≤ 4 :=
      length_paddedDigits_le (by decide) (by omega)
    have spelled := SpellsYear.unsigned noGap numeral_of short
    rw [if_pos plain]
    rwa [Int.natAbs_of_nonneg plain.1] at spelled
  · rw [if_neg plain]
    by_cases negative : year < 0
    · have spelled := SpellsYear.minus noGap numeral_of
      rw [if_pos negative]
      rwa [show -(year.natAbs : Int) = year by omega] at spelled
    · have spelled := SpellsYear.plus noGap numeral_of
      rw [if_neg negative]
      rwa [Int.natAbs_of_nonneg (Int.not_lt.mp negative)] at spelled

/-- What is written of an instant spells its numbers, with one space and no superfluous zeros. -/
theorem spelledAs_text (t : Instant) : t.numbers.SpelledAs t.text := by
  have dayBound := t.date.day_bounds
  have monthBound := t.date.month_bounds
  have day := spellsNumber_digits (n := t.date.day) (by omega)
  have month := spellsNumber_digits (n := t.date.month) (by omega)
  have hour := spellsNumber_digits (n := t.hour) (by omega)
  have minute := spellsNumber_digits (n := t.minute) (by omega)
  have second := spellsNumber_digits (n := t.second) (by omega)
  have space : isBlank ' ' = true := by decide
  have spelled : t.numbers.SpelledAs _ :=
    .parts day month (spellsYear_yearText t.date.year) space hour minute second
      (List.forall_mem_nil _)
  rwa [List.append_nil, ← text_eq] at spelled

/-- Every instant is read back from what is written of it. -/
theorem read?_text (t : Instant) : read? t.text = some t := by
  rw [(spelledAs_text t).read?_eq]
  exact Numbers.instant?_eq_some_iff.mpr rfl

/-- The instants are the days and times that follow the rules, and each is read back from what is
written of it. So no two are written alike, and writing what was read from any text gives a text
that reading and writing leave as it is.
-/
theorem text_inverts_read
    : (∀ numbers : Numbers, numbers.Exist ↔ ∃ t : Instant, t.numbers = numbers)
      ∧ (∀ t, read? t.text = some t)
      ∧ Function.Injective text
      ∧ ∀ (input : List Char) (t : Instant),
          read? input = some t → t.numbers.Exist ∧ (read? t.text).map text = some t.text := by
  refine ⟨?_, read?_text, ?_, ?_⟩
  · intro numbers
    constructor
    · intro exist
      exact exist.exists_instant
    · rintro ⟨t, rfl⟩
      exact exist_numbers t
  · intro t other same
    have read := read?_text t
    rw [same, read?_text other] at read
    exact (Option.some.inj read).symm
  · intro input t _
    rw [read?_text t]
    exact ⟨exist_numbers t, rfl⟩

/-- The sixtieth second of a minute on the leap day of a year before year zero, spelled with more
zeros and white space, but with a shorter year, than it is written.
-/
theorem text_inverts_read_leap_day
    : ∃ t : Instant,
        t.numbers = { day := 29, month := 2, year := -4, hour := 7, minute := 5, second := 60 }
        ∧ t.numbers.Exist
        ∧ read? t.text = some t
        ∧ read? "\u300029.02. -4 07: 5:60 ".toList = some t
        ∧ t.text = "29.2.-0004 7:5:60".toList
        ∧ (read? t.text).map text = some t.text := by
  let t : Instant :=
    {
      date := { year := -4, month := 2, day := 29, dayExists := by decide },
      hour := 7,
      minute := 5,
      second := 60,
    }
  have read : read? "\u300029.02. -4 07: 5:60 ".toList = some t := by decide +kernel
  have written : t.text = "29.2.-0004 7:5:60".toList := by decide +kernel
  obtain ⟨-, back, -, stable⟩ := text_inverts_read
  obtain ⟨exist, fixed⟩ := stable _ t read
  exact ⟨t, rfl, exist, back t, read, written, fixed⟩

end Logbook.Instant
