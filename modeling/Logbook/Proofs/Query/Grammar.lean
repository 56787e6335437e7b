import Logbook.Proofs.Query.Layout
import Logbook.Proofs.Query.Stages

/-! The grammar of query texts.
A phrase is a query as it is written, with its literals not yet read. A text is a query exactly
when it lays out the tokens of a phrase whose literals can all be read.
-/

namespace Logbook.Query

/-- The parts of a query as they are written. -/
structure Phrase where
  select : Attribute
  filter : Option (Attribute × String) := none
  bounds : Option (String × String) := none
deriving DecidableEq

namespace Phrase

/-- The tokens of the clause that tells which value an attribute has. -/
def filterKinds : Option (Attribute × String) → List TokenKind
  | none => []
  | some (about, literal) =>
      [.word "for", .word about.keyword, .equals, .quoted literal]

/-- The tokens of the clause that bounds the time. -/
def boundsKinds : Option (String × String) → List TokenKind
  | none => []
  | some (after, before) =>
      [.word "and", .word "date", .word "between", .quoted after, .word "and", .quoted before]

/-- The tokens of a phrase. -/
def kinds (phrase : Phrase) : List TokenKind :=
  .word "get" :: .word phrase.select.keyword
    :: (filterKinds phrase.filter ++ boundsKinds phrase.bounds)

/-- The text lays out the tokens of the phrase. -/
def WrittenAs (phrase : Phrase) (text : String) : Prop :=
  ∃ layout : Layout, layout.kinds = phrase.kinds ∧ layout.text = text.toList

/-- The literals of a clause spell the bounds of the window. -/
def Bound (bounds : String × String) (window : Window) : Prop :=
  ∃ after before,
    Instant.read? bounds.1.toList = some after
    ∧ Instant.read? bounds.2.toList = some before
    ∧ window = .between after before

/-- The query that a phrase is, clause by clause. -/
structure Means (phrase : Phrase) (query : Query) : Prop where
  select : query.select = phrase.select
  condition
    : Option.Rel (fun filter condition => Gives filter.1 filter.2 condition)
        phrase.filter query.condition
  window : Option.Rel Bound phrase.bounds query.window

end Phrase

-----------------------------------------------------------------------------------------
-- What each stage accepts, from the last one back to the first
-----------------------------------------------------------------------------------------

namespace Stage

/-- A stage at which no query can end goes on past a token. -/
theorem Reads.exists_step {stage : Stage} {kinds : List TokenKind} {query : Query}
    (reads : stage.Reads kinds query) (unfinished : ∀ query, stage.finish ≠ .ok query)
    : ∃ kind rest next,
        kinds = kind :: rest ∧ stage.Advance kind next ∧ next.Reads rest query := by
  cases reads with
  | finish finished => exact absurd finished (unfinished query)
  | step advance reads => exact ⟨_, _, _, rfl, advance, reads⟩

theorem reads_complete_iff {done query : Query} {kinds : List TokenKind}
    : (complete done).Reads kinds query ↔ kinds = [] ∧ query = done := by
  constructor
  · intro reads
    cases reads with
    | finish finished => exact ⟨rfl, (Except.ok.inj finished).symm⟩
    | step advance => cases advance
  · rintro ⟨rfl, rfl⟩
    exact .finish rfl

/-- Behind `and`, a draft is completed by the bounds of a window. -/
theorem reads_date_iff {draft query : Query} {kinds : List TokenKind}
    : (date draft).Reads kinds query
      ↔ ∃ bounds window,
          .word "and" :: kinds = Phrase.boundsKinds (some bounds)
          ∧ Phrase.Bound bounds window
          ∧ query = { draft with window := some window } := by
  constructor
  · intro reads
    obtain ⟨_, rest, _, rfl, ⟨⟩, reads⟩ := reads.exists_step (by simp [finish])
    obtain ⟨_, rest, _, rfl, ⟨⟩, reads⟩ := reads.exists_step (by simp [finish])
    obtain ⟨_, rest, _, rfl, advance, reads⟩ := reads.exists_step (by simp [finish])
    cases advance with
    | after _ opens =>
        obtain ⟨_, rest, _, rfl, ⟨⟩, reads⟩ := reads.exists_step (by simp [finish])
        obtain ⟨_, rest, _, rfl, advance, reads⟩ := reads.exists_step (by simp [finish])
        cases advance with
        | before _ _ closes =>
            obtain ⟨rfl, rfl⟩ := reads_complete_iff.mp reads
            exact ⟨(_, _), _, rfl, ⟨_, _, opens, closes, rfl⟩, rfl⟩
  · rintro ⟨bounds, _, same, ⟨opening, closing, opens, closes, rfl⟩, rfl⟩
    obtain rfl := (List.cons.inj same).2
    exact .step (.date draft) (.step (.between draft) (.step (.after draft opens)
      (.step (.conjunction draft opening) (.step (.before draft opening closes) (.finish rfl)))))

/-- Behind the value of an attribute, only the bounds of a window may follow. -/
theorem reads_conditioned_iff {select : Attribute} {condition : Option Condition} {query : Query}
    {kinds : List TokenKind}
    : (conditioned { select, condition }).Reads kinds query
      ↔ ∃ bounds,
          kinds = Phrase.boundsKinds bounds
          ∧ query.select = select
          ∧ query.condition = condition
          ∧ Option.Rel Phrase.Bound bounds query.window := by
  constructor
  · intro reads
    cases reads with
    | finish finished =>
        obtain rfl := Except.ok.inj finished
        exact ⟨none, rfl, rfl, rfl, .none⟩
    | step advance reads =>
        cases advance
        obtain ⟨bounds, window, same, bound, rfl⟩ := reads_date_iff.mp reads
        exact ⟨some bounds, same, rfl, rfl, .some bound⟩
  · obtain ⟨_, _, window⟩ := query
    rintro ⟨bounds, rfl, rfl, rfl, bound⟩
    cases bound with
    | none => exact .finish rfl
    | some bound =>
        exact .step (.conditioned _) (reads_date_iff.mpr ⟨_, _, rfl, bound, rfl⟩)

/-- Behind `for`, an attribute and its value come first. -/
theorem reads_field_iff {select : Attribute} {query : Query} {kinds : List TokenKind}
    : (field { select }).Reads kinds query
      ↔ ∃ filter condition rest,
          .word "for" :: kinds = Phrase.filterKinds (some filter) ++ rest
          ∧ Gives filter.1 filter.2 condition
          ∧ (conditioned { select, condition := some condition }).Reads rest query := by
  constructor
  · intro reads
    obtain ⟨_, rest, _, rfl, advance, reads⟩ := reads.exists_step (by simp [finish])
    cases advance with
    | field _ about =>
        obtain ⟨_, rest, _, rfl, ⟨⟩, reads⟩ := reads.exists_step (by simp [finish])
        obtain ⟨_, rest, _, rfl, advance, reads⟩ := reads.exists_step (by simp [finish])
        cases advance with
        | value _ gives => exact ⟨(about, _), _, rest, rfl, gives, reads⟩
  · rintro ⟨⟨about, literal⟩, condition, rest, same, gives, reads⟩
    obtain rfl := (List.cons.inj same).2
    exact .step (.field _ about) (.step (.equals _ about) (.step (.value _ gives) reads))

/-- Behind the selected attribute, both clauses may be missing. -/
theorem reads_selected_iff {select : Attribute} {query : Query} {kinds : List TokenKind}
    : (selected { select }).Reads kinds query
      ↔ ∃ phrase : Phrase,
          phrase.select = select
          ∧ kinds = Phrase.filterKinds phrase.filter ++ Phrase.boundsKinds phrase.bounds
          ∧ phrase.Means query := by
  constructor
  · intro reads
    cases reads with
    | finish finished =>
        obtain rfl := Except.ok.inj finished
        exact ⟨{ select }, rfl, rfl, rfl, .none, .none⟩
    | step advance reads =>
        cases advance with
        | condition =>
            obtain ⟨filter, condition, rest, same, gives, reads⟩ := reads_field_iff.mp reads
            obtain ⟨bounds, rfl, rfl, selects, bound⟩ := reads_conditioned_iff.mp reads
            exact ⟨⟨_, some filter, bounds⟩, rfl, same, rfl, selects ▸ .some gives, bound⟩
        | window =>
            obtain ⟨bounds, window, same, bound, rfl⟩ := reads_date_iff.mp reads
            exact ⟨⟨select, none, some bounds⟩, rfl, same, rfl, .none, .some bound⟩
  · obtain ⟨_, _, _⟩ := query
    rintro ⟨⟨_, _, bounds⟩, rfl, rfl, rfl, gives, bound⟩
    cases gives with
    | none =>
        cases bound with
        | none => exact .finish rfl
        | some bound =>
            exact .step (.window _) (reads_date_iff.mpr ⟨_, _, rfl, bound, rfl⟩)
    | some gives =>
        have reads := reads_conditioned_iff.mpr ⟨bounds, rfl, rfl, rfl, bound⟩
        exact .step (.condition _) (reads_field_iff.mpr ⟨_, _, _, rfl, gives, reads⟩)

/-- The reader accepts the tokens of the phrases whose literals can be read. -/
theorem reads_start_iff {query : Query} {kinds : List TokenKind}
    : start.Reads kinds query ↔ ∃ phrase : Phrase, kinds = phrase.kinds ∧ phrase.Means query := by
  constructor
  · intro reads
    obtain ⟨_, rest, _, rfl, ⟨⟩, reads⟩ := reads.exists_step (by simp [finish])
    obtain ⟨_, rest, _, rfl, advance, reads⟩ := reads.exists_step (by simp [finish])
    cases advance with
    | selector select =>
        obtain ⟨phrase, rfl, rfl, means⟩ := reads_selected_iff.mp reads
        exact ⟨phrase, rfl, means⟩
  · rintro ⟨phrase, rfl, means⟩
    exact .step .start
      (.step (.selector phrase.select) (reads_selected_iff.mpr ⟨phrase, rfl, rfl, means⟩))

end Stage

-----------------------------------------------------------------------------------------
-- Texts and phrases
-----------------------------------------------------------------------------------------

theorem ofTokens_eq_ok_iff {found : List Token} {query : Query}
    : ofTokens found = .ok query
      ↔ ∃ phrase : Phrase, found.map (·.kind) = phrase.kinds ∧ phrase.Means query := by
  rw [← Stage.reads_start_iff, ← Stage.reads_iff]
  cases found with
  | nil =>
      -- Both ways fail on an empty list, though not with the same error.
      have empty : ofTokens [] = .error .empty := rfl
      have unfinished : Stage.start.finish = .error (.unexpectedEnd (.keyword "get")) := rfl
      simp [empty, unfinished]
  | cons token rest => rfl

namespace Phrase

theorem boundsKinds_inj {bounds other : Option (String × String)}
    (same : boundsKinds bounds = boundsKinds other)
    : bounds = other := by
  cases bounds with
  | none =>
      cases other with
      | none => rfl
      | some => simp [boundsKinds] at same
  | some =>
      cases other with
      | none => simp [boundsKinds] at same
      | some => simpa [boundsKinds, Prod.ext_iff] using same

/-- A clause about a value is not mistaken for one that bounds the time. -/
theorem filterKinds_append_ne_boundsKinds (filter : Attribute × String) (rest : List TokenKind)
    (bounds : Option (String × String))
    : filterKinds (some filter) ++ rest ≠ boundsKinds bounds := by
  cases bounds <;> simp [filterKinds, boundsKinds]

theorem clauses_inj {filter other : Option (Attribute × String)}
    {bounds other_bounds : Option (String × String)}
    (same : filterKinds filter ++ boundsKinds bounds
      = filterKinds other ++ boundsKinds other_bounds)
    : filter = other ∧ bounds = other_bounds := by
  cases filter with
  | none =>
      cases other with
      | none => exact ⟨rfl, boundsKinds_inj same⟩
      | some other => exact absurd same.symm (filterKinds_append_ne_boundsKinds other _ _)
  | some filter =>
      cases other with
      | none => exact absurd same (filterKinds_append_ne_boundsKinds filter _ _)
      | some other =>
          simp only [filterKinds, List.cons_append, List.nil_append, List.cons.injEq,
            TokenKind.word.injEq, TokenKind.quoted.injEq, Attribute.keyword_inj] at same
          obtain ⟨-, about, -, literal, rest⟩ := same
          exact ⟨congrArg some (Prod.ext about literal), boundsKinds_inj rest⟩

/-- The tokens of a phrase tell its parts. -/
theorem kinds_inj {phrase other : Phrase} (same : phrase.kinds = other.kinds)
    : phrase = other := by
  obtain ⟨select, filter, bounds⟩ := phrase
  obtain ⟨other_select, other_filter, other_bounds⟩ := other
  simp only [kinds, List.cons.injEq, TokenKind.word.injEq, Attribute.keyword_inj] at same
  obtain ⟨-, rfl, clauses⟩ := same
  obtain ⟨rfl, rfl⟩ := clauses_inj clauses
  rfl

/-- A text is written as one phrase at most. -/
theorem WrittenAs.unique {phrase other : Phrase} {text : String} (written : phrase.WrittenAs text)
    (rewritten : other.WrittenAs text)
    : phrase = other := by
  obtain ⟨layout, kinds, spelled⟩ := written
  obtain ⟨relayout, rekinds, respelled⟩ := rewritten
  have same := Layout.kinds_eq_of_text_eq (spelled.trans respelled.symm)
  exact kinds_inj (kinds.symm.trans (same.trans rekinds))

end Phrase

theorem parse_eq_ok_iff_exists {text : String} {query : Query}
    : parse text = .ok query ↔ ∃ phrase : Phrase, phrase.WrittenAs text ∧ phrase.Means query := by
  rw [parse, bind_eq_ok_iff, tokens_eq_tokensFrom]
  constructor
  · rintro ⟨found, read, parsed⟩
    obtain ⟨layout, spelled, rfl⟩ := tokensFrom_eq_ok_iff.mp read
    obtain ⟨phrase, kinds, means⟩ := ofTokens_eq_ok_iff.mp parsed
    exact ⟨phrase, ⟨layout, layout.map_kind_tokensFrom 0 ▸ kinds, spelled⟩, means⟩
  · rintro ⟨phrase, ⟨layout, kinds, spelled⟩, means⟩
    refine ⟨layout.tokensFrom 0, tokensFrom_eq_ok_iff.mpr ⟨layout, spelled, rfl⟩, ?_⟩
    exact ofTokens_eq_ok_iff.mpr ⟨phrase, (layout.map_kind_tokensFrom 0).trans kinds, means⟩

/-- A text is a query exactly when it is written as a phrase whose literals can be read, and no
text is written as two phrases.
-/
theorem parse_eq_ok_iff (text : String)
    : (∀ query,
        parse text = .ok query ↔ ∃ phrase : Phrase, phrase.WrittenAs text ∧ phrase.Means query)
      ∧ ∀ phrase other : Phrase,
          phrase.WrittenAs text → other.WrittenAs text → phrase = other := by
  constructor
  · intro query
    exact parse_eq_ok_iff_exists
  · intro phrase other written rewritten
    exact written.unique rewritten

/-- A literal may stand close to the tokens around it, and may hold the words of the grammar. -/
theorem parse_eq_ok_iff_close_literal
    : ∃ phrase : Phrase,
        phrase.WrittenAs "get ip\tfor user=\"for ip = \""
        ∧ phrase.Means { select := .address, condition := some (.user "for ip = ") } := by
  have parsed : (parse "get ip\tfor user=\"for ip = \"").toOption
      = some { select := .address, condition := some (.user "for ip = ") } := by
    decide +kernel
  refine ((parse_eq_ok_iff _).1 _).mp ?_
  cases hp : parse "get ip\tfor user=\"for ip = \"" with
  | error e => simp [hp, Except.toOption] at parsed
  | ok query =>
      rw [hp] at parsed
      exact congrArg Except.ok (Option.some.inj parsed)

end Logbook.Query
