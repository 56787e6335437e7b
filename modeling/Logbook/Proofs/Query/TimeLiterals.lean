import Logbook.Proofs.Entry.LineRoundTrip
import Logbook.Proofs.Query.SetSemantics
import Logbook.Proofs.Query.Spelling

/-! Times in log lines and in queries.
A line and a literal may spell a time in different ways. Both are read as the instant of its
numbers, so the query is about the entry of the line.
-/

namespace Logbook

/-- The time of an entry is what its third field spells, if that spells one. -/
theorem Entry.time_of_ofLine {limit : Nat} {line : String} {entry : Entry} {field : List Char}
    (read : ofLine limit line = .ok entry) (third : (fieldsOfLine line.toList)[2]? = some field)
    : entry.time = Instant.read? field := by
  have shape := readAs_ofLine limit line
  rw [read] at shape
  cases shape with
  | entry fits fields _ =>
      rw [fields] at third
      cases third
      rfl

namespace Query

open Instant Text

/-- The query for entries of one time, without bounds. -/
theorem Phrase.means_time {select : Attribute} {literal : String} {t : Instant}
    (read : read? literal.toList = some t)
    : Phrase.Means { select, filter := some (.time, literal) }
        { select, condition := some (.time t) } :=
  ⟨rfl, .some (.time read), .none⟩

/-- Each spelling of the numbers of an instant is read as that instant, and a spelling of other
numbers has no reading. So a query for one spelling of a time is about every entry whose line has
another.
-/
theorem spellings_name_instants
    : (∀ (t : Instant) (text : List Char), t.numbers.SpelledAs text → read? text = some t)
      ∧ (∀ (numbers : Numbers) (text : List Char),
          numbers.SpelledAs text → (read? text = none ↔ ¬numbers.Exist))
      ∧ ∀ (t : Instant) (field literal : List Char),
          t.numbers.SpelledAs field
          → t.numbers.SpelledAs literal
          → ∀ (limit : Nat) (line : String) (entry : Entry),
              Entry.ofLine limit line = .ok entry
              → (Entry.fieldsOfLine line.toList)[2]? = some field
              → ∀ (select : Attribute) (text : String),
                  Phrase.WrittenAs { select, filter := some (.time, String.ofList literal) } text
                  → ∃ query, parse text = .ok query ∧ query.criteria.admits entry = true := by
  have named (t : Instant) (text : List Char) (spelled : t.numbers.SpelledAs text)
      : read? text = some t := by
    rw [spelled.read?_eq]
    exact Numbers.instant?_eq_some_iff.mpr rfl
  refine ⟨named, ?_, ?_⟩
  · intro numbers text spelled
    rw [spelled.read?_eq]
    exact Numbers.instant?_eq_none_iff
  · intro t field literal in_line in_query limit line entry read third select text written
    have time : entry.time = some t := by
      rw [Entry.time_of_ofLine read third]
      exact named t field in_line
    have asked : read? (String.ofList literal).toList = some t := by
      rw [String.toList_ofList]
      exact named t literal in_query
    refine ⟨{ select, condition := some (.time t) }, ?_, ?_⟩
    · exact parse_eq_ok_iff_exists.mpr ⟨_, written, Phrase.means_time asked⟩
    · apply Query.admits_iff.mpr
      constructor
      · intro condition given
        cases given
        exact time
      · intro window given
        cases given

/-- The field has zeros and wide spaces, and the query a year with a sign, which makes it no other
instant. The last day of February is no day in a full century that is no fourth one.
-/
theorem spellings_name_instants_signed
    : let numbers : Numbers :=
        { day := 9, month := 6, year := 2013, hour := 12, minute := 22, second := 5 }
      let leapDay : Numbers :=
        { day := 29, month := 2, year := 1900, hour := 0, minute := 0, second := 0 }
      let field := "09.6.\u30002013\u00a012:22:05 ".toList
      let literal := "9.06. +02013 12:22: 5".toList
      let line := "a\tb\t09.6.\u30002013\u00a012:22:05 \tLOGIN\tOK"
      let text := "get user for date = \"9.06. +02013 12:22: 5\""
      (numbers.SpelledAs field ∧ numbers.SpelledAs literal)
      ∧ (∃ t entry,
          read? field = some t ∧ read? literal = some t ∧ Entry.ofLine 99 line = .ok entry
          ∧ ∃ query, parse text = .ok query ∧ query.criteria.admits entry = true)
      ∧ leapDay.SpelledAs "29.2.1900 0:0:0".toList
      ∧ read? "29.2.1900 0:0:0".toList = none := by
  intro numbers leapDay field literal line text
  have written {numbers : Numbers} {text same : List Char} (spelled : numbers.SpelledAs text)
      (h : text = same)
      : numbers.SpelledAs same :=
    h ▸ spelled
  have number (n : Nat) (gap : List Char) (zeros : Nat) (blank : gap.all isBlank = true)
      (short : zeros + (digits n).length ≤ 2)
      : SpellsNumber n (gap ++ (List.replicate zeros '0' ++ digits n)) :=
    .digits (List.all_eq_true.mp blank) ⟨zeros, rfl⟩ (by simpa using short)
  have noGap : ∀ c ∈ ([] : List Char), isBlank c = true := List.forall_mem_nil _
  have space : ∀ c ∈ [' '], isBlank c = true := by simp [isBlank]
  have wide : ∀ c ∈ ['\u3000'], isBlank c = true := by simp [isBlank]
  have in_line : numbers.SpelledAs field :=
    written
      (.parts (number 9 [] 1 rfl (by decide)) (number 6 [] 0 rfl (by decide))
        (.unsigned (n := 2013) wide ⟨0, rfl⟩ (by decide)) (by decide : isBlank '\u00a0' = true)
        (number 12 [] 0 rfl (by decide)) (number 22 [] 0 rfl (by decide))
        (number 5 [] 1 rfl (by decide)) space)
      (by decide +kernel)
  have in_query : numbers.SpelledAs literal :=
    written
      (.parts (number 9 [] 0 rfl (by decide)) (number 6 [] 1 rfl (by decide))
        (.plus (n := 2013) space ⟨1, rfl⟩) (by decide : isBlank ' ' = true)
        (number 12 [] 0 rfl (by decide)) (number 22 [] 0 rfl (by decide))
        (number 5 [' '] 0 rfl (by decide)) noGap)
      (by decide +kernel)
  have on_leapDay : leapDay.SpelledAs "29.2.1900 0:0:0".toList :=
    written
      (.parts (number 29 [] 0 rfl (by decide)) (number 2 [] 0 rfl (by decide))
        (.unsigned (n := 1900) noGap ⟨0, rfl⟩ (by decide)) (by decide : isBlank ' ' = true)
        (number 0 [] 0 rfl (by decide)) (number 0 [] 0 rfl (by decide))
        (number 0 [] 0 rfl (by decide)) noGap)
      (by decide +kernel)
  have broken : ¬leapDay.Exist := by
    intro exist
    have common : ¬LeapYear 1900 := by
      rintro ⟨-, century⟩
      exact absurd (century (by decide)) (by decide)
    exact absurd (exist.commonFebruary rfl common) (by decide)
  let t : Instant :=
    {
      date := { year := 2013, month := 6, day := 9, dayExists := by decide },
      hour := 12,
      minute := 22,
      second := 5,
    }
  let entry : Entry :=
    { address := "a", user := "b", time := some t, action := .login, status := .ok }
  obtain ⟨reads, refuses, matches_line⟩ := spellings_name_instants
  have read : Entry.ofLine 99 line = .ok entry := by decide +kernel
  have third : (Entry.fieldsOfLine line.toList)[2]? = some field := by decide +kernel
  have asked
      : Phrase.WrittenAs { select := .user, filter := some (.time, String.ofList literal) }
          text := by
    have closed
        : Phrase.Closed { select := .user, filter := some (.time, String.ofList literal) } := by
      constructor
      · intro clause given
        cases given
        exact (by decide +kernel : '"' ∉ (String.ofList literal).toList)
      · intro clause given
        cases given
    exact closed.writtenAs (by decide +kernel)
  refine ⟨⟨in_line, in_query⟩,
    ⟨t, entry, reads t field in_line, reads t literal in_query, read, ?_⟩, on_leapDay, ?_⟩
  · exact matches_line t field literal in_line in_query 99 line entry read third .user text asked
  · exact (refuses leapDay _ on_leapDay).mpr broken

end Query

end Logbook
