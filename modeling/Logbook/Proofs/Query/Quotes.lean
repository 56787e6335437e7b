import Logbook.Proofs.Query.Tiling
import Logbook.Query.Parse
import Mathlib.Algebra.Ring.Parity

/-! The quotes of a query text.
White space holds none, and every token holds both quotes of a literal or none. So the quotes of a
text that is read come in pairs, and a text is refused exactly when the last one has no partner.
-/

namespace Logbook.Query

open Text Text.Utf8

/-- The last quote of the text stands behind as many bytes as the offset says. -/
def LastQuoteAt (text : String) (offset : Nat) : Prop :=
  ∃ front behind : String,
    text = front ++ "\"" ++ behind ∧ '"' ∉ behind.toList ∧ front.utf8ByteSize = offset

/-- A text has one last quote, since neither cut leaves a quote behind its own. -/
theorem LastQuoteAt.unique {text : String} {offset other : Nat} (last : LastQuoteAt text offset)
    (also : LastQuoteAt text other)
    : offset = other := by
  obtain ⟨front, behind, cut, absent, rfl⟩ := last
  obtain ⟨front', behind', cut', absent', rfl⟩ := also
  have same : front.toList ++ '"' :: behind.toList = front'.toList ++ '"' :: behind'.toList := by
    have whole := cut.symm.trans cut'
    simpa using congrArg String.toList whole
  have fronts : front.toList = front'.toList := by
    rcases List.append_eq_append_iff.mp same with ⟨between, ahead, rest⟩ | ⟨between, ahead, rest⟩
    · cases between with
      | nil => simpa using ahead.symm
      | cons c more => exact absurd (by simp [(List.cons.inj rest).2]) absent
    · cases between with
      | nil => simpa using ahead
      | cons c more => exact absurd (by simp [(List.cons.inj rest).2]) absent'
  rw [String.toList_inj.mp fronts]

-----------------------------------------------------------------------------------------
-- Quotes come in pairs in what is read
-----------------------------------------------------------------------------------------

theorem quote_not_mem_gap {gap : List Char} (blank : ∀ c ∈ gap, isBlank c = true)
    : '"' ∉ gap := by
  intro quote
  exact absurd (blank _ quote) (by decide)

/-- A literal has its two quotes, and no other token has any. -/
theorem TokenKind.Sound.even_quotes {kind : TokenKind} (h : kind.Sound)
    : Even (kind.source.toList.count '"') := by
  cases kind with
  | word text =>
      have absent : '"' ∉ text.toList := by
        intro quote
        exact absurd (h.2 _ quote) (by decide)
      rw [TokenKind.source, List.count_eq_zero.mpr absent]
      exact Even.zero
  | equals => exact Even.zero
  | quoted text =>
      have absent : text.toList.count '"' = 0 := List.count_eq_zero.mpr h
      rw [source_quoted, List.count_cons_self, List.count_append, absent]
      exact even_two

/-- The quotes of a layout come in pairs, by induction on its pieces. -/
theorem even_quotes_writeBefore {ending : List Char} (blank : ∀ c ∈ ending, isBlank c = true)
    (pieces : List Piece)
    : Even ((writeBefore ending pieces).count '"') := by
  induction pieces with
  | nil =>
      rw [writeBefore, List.count_eq_zero.mpr (quote_not_mem_gap blank)]
      exact Even.zero
  | cons piece rest ih =>
      have gap := List.count_eq_zero.mpr (quote_not_mem_gap piece.blank)
      rw [writeBefore, List.count_append, List.count_append, gap, Nat.zero_add]
      exact piece.sound.even_quotes.add ih

theorem even_quotes_of_tokensFrom {offset : Nat} {text : List Char} {found : List Token}
    (read : tokensFrom offset text = .ok found)
    : Even (text.count '"') := by
  obtain ⟨layout, rfl, -⟩ := tokensFrom_eq_ok_iff.mp read
  exact even_quotes_writeBefore layout.blank layout.pieces

-----------------------------------------------------------------------------------------
-- A text that is refused
-----------------------------------------------------------------------------------------

/-- The text goes on in pairs of quotes up to one that is the last, behind as many bytes. -/
def OpenedAt (text : List Char) (place : Nat) : Prop :=
  ∃ front behind,
    text = front ++ '"' :: behind
    ∧ Even (front.count '"') ∧ '"' ∉ behind ∧ byteLength front = place

/-- More text in front that holds pairs of quotes only moves the open one further on. -/
theorem OpenedAt.behind {text front : List Char} {place : Nat} (h : OpenedAt text place)
    (even : Even (front.count '"'))
    : OpenedAt (front ++ text) (byteLength front + place) := by
  obtain ⟨before, behind, rfl, pairs, absent, rfl⟩ := h
  refine ⟨front ++ before, behind, (List.append_assoc _ _ _).symm, ?_, absent, ?_⟩
  · rw [List.count_append]
    exact even.add pairs
  · exact byteLength_append front before

theorem OpenedAt.odd {text : List Char} {place : Nat} (h : OpenedAt text place)
    : Odd (text.count '"') := by
  obtain ⟨front, behind, rfl, even, absent, -⟩ := h
  rw [List.count_append, List.count_cons_self, List.count_eq_zero.mpr absent]
  exact even.add_one

theorem OpenedAt.lastQuoteAt {text : String} {place : Nat} (h : OpenedAt text.toList place)
    : LastQuoteAt text place := by
  obtain ⟨front, behind, cut, -, absent, rfl⟩ := h
  refine ⟨String.ofList front, String.ofList behind, ?_, ?_, utf8ByteSize_ofList front⟩
  · apply String.toList_inj.mp
    rw [cut]
    simp
  · simpa using absent

/-- A text is refused at a quote that is never closed. The lexemes are gone through from the front,
and behind a complete one the reader fails in the same way.
-/
theorem exists_openedAt {offset : Nat} {text : List Char} {error : Error}
    (failed : tokensFrom offset text = .error error)
    : ∃ place, OpenedAt text place ∧ error = .unclosedLiteral (offset + place) := by
  induction text using lexemeStep.induction generalizing offset with
  | nil =>
      rw [tokensFrom_nil] at failed
      cases failed
  | cons first rest ih =>
      obtain ⟨cut, ends⟩ := readLexeme_spec first rest
      rw [show lexemeStep.read first rest = readLexeme first rest from rfl] at ih
      generalize readLexeme first rest = left at cut ends ih
      obtain ⟨lexeme, more⟩ := left
      rw [cut] at failed ⊢
      have passed (even : Even (lexeme.source.count '"'))
          (later : tokensFrom (offset + byteLength lexeme.source) more = .error error)
          : ∃ place,
              OpenedAt (lexeme.source ++ more) place
              ∧ error = .unclosedLiteral (offset + place) := by
        obtain ⟨place, opened, rfl⟩ := ih later
        exact ⟨_, opened.behind even, by rw [Nat.add_assoc]⟩
      cases lexeme with
      | gap gap =>
          obtain ⟨-, blank, run_ends⟩ := ends
          apply passed
          · rw [Lexeme.source, List.count_eq_zero.mpr (quote_not_mem_gap blank)]
            exact Even.zero
          · exact (tokensFrom_gap offset blank run_ends).symm.trans failed
      | token kind =>
          obtain ⟨sound, run_ends⟩ := ends
          apply passed
          · exact sound.even_quotes
          · rw [Lexeme.source, tokensFrom_token offset sound run_ends] at failed
            cases later : tokensFrom (offset + byteLength kind.source.toList) more with
            | ok found =>
                rw [later] at failed
                cases failed
            | error e =>
                rw [later] at failed
                cases failed
                exact later
      | unclosed tail =>
          rw [tokensFrom_append offset ends, tokensAmong_unclosed] at failed
          cases failed
          obtain ⟨absent, rfl⟩ := ends
          exact ⟨0, ⟨[], tail, List.append_nil _, Even.zero, absent, rfl⟩, rfl⟩

/-- A text has no tokens exactly when its quotes are odd in number. What is reported of it, as of a
query, is then the place of the last one.
-/
theorem tokens_fail_iff_odd_quotes (text : String)
    : ((∃ error, tokens text = .error error) ↔ Odd (text.toList.count '"'))
      ∧ (Odd (text.toList.count '"')
        → ∃ offset,
            (∀ place, LastQuoteAt text place ↔ place = offset)
            ∧ tokens text = .error (.unclosedLiteral offset)
            ∧ parse text = .error (.unclosedLiteral offset)) := by
  have of_odd (odd : Odd (text.toList.count '"'))
      : ∃ offset, LastQuoteAt text offset ∧ tokens text = .error (.unclosedLiteral offset) := by
    cases read : tokens text with
    | ok found => exact absurd (even_quotes_of_tokensFrom read) (Nat.not_even_iff_odd.mpr odd)
    | error error =>
        obtain ⟨place, opened, rfl⟩ := exists_openedAt read
        rw [Nat.zero_add]
        exact ⟨place, opened.lastQuoteAt, rfl⟩
  constructor
  · constructor
    · rintro ⟨error, failed⟩
      obtain ⟨place, opened, -⟩ := exists_openedAt failed
      exact opened.odd
    · intro odd
      obtain ⟨offset, -, failed⟩ := of_odd odd
      exact ⟨_, failed⟩
  · intro odd
    obtain ⟨offset, last, failed⟩ := of_odd odd
    refine ⟨offset, fun place => ⟨fun also => also.unique last, ?_⟩, failed, ?_⟩
    · rintro rfl
      exact last
    · rw [parse, failed]
      rfl

/-- No query begins in this way, and what stands between its first two quotes has two bytes a
character, but what is reported is the third quote.
-/
theorem tokens_fail_iff_odd_quotes_third
    : let text := "drop = \"Вася\"\"\u3000get ip"
      Odd (text.toList.count '"')
      ∧ LastQuoteAt text 17
      ∧ parse text = .error (.unclosedLiteral 17) := by
  intro text
  have odd : Odd (text.toList.count '"') := by decide
  have last : LastQuoteAt text 17 :=
    ⟨"drop = \"Вася\"", "\u3000get ip", by decide, by decide, by decide⟩
  obtain ⟨offset, places, -, failed⟩ := (tokens_fail_iff_odd_quotes text).2 odd
  refine ⟨odd, last, ?_⟩
  rw [(places 17).mp last]
  exact failed

end Logbook.Query
