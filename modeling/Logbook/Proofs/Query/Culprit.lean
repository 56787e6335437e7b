import Logbook.Proofs.Query.Viability

/-! What is wrong with a text that is no query is said of the first token that a query cannot go on
with.
The reader stops at this token because it leads to no stage. When it stops at no token, it is the
end of the tokens that comes too early.
-/

namespace Logbook

theorem bind_eq_error_iff {ε α β : Type} {result : Except ε α} {next : α → Except ε β} {error : ε}
    : (result >>= next) = .error error
      ↔ result = .error error ∨ ∃ middle, result = .ok middle ∧ next middle = .error error := by
  cases result <;> simp [bind, Except.bind]

/-- A fold that fails does so at one item, which it reaches without a failure. -/
theorem foldlM_eq_error_iff {ε α β : Type} {step : β → α → Except ε β} {items : List α}
    {start : β} {error : ε}
    : items.foldlM step start = .error error
      ↔ ∃ front item back middle,
          items = front ++ item :: back
          ∧ front.foldlM step start = .ok middle
          ∧ step middle item = .error error := by
  constructor
  · intro failed
    induction items generalizing start with
    | nil => cases failed
    | cons item rest ih =>
        rcases bind_eq_error_iff.mp failed with here | ⟨next, taken, later⟩
        · exact ⟨[], item, rest, start, rfl, rfl, here⟩
        · obtain ⟨front, culprit, back, middle, rfl, reached, failed⟩ := ih later
          refine ⟨item :: front, culprit, back, middle, rfl, ?_, failed⟩
          exact bind_eq_ok_iff.mpr ⟨next, taken, reached⟩
  · rintro ⟨front, item, back, middle, rfl, reached, failed⟩
    rw [List.foldlM_append]
    exact bind_eq_error_iff.mpr (.inr ⟨middle, reached, bind_eq_error_iff.mpr (.inl failed)⟩)

namespace Query

-----------------------------------------------------------------------------------------
-- What an error says
-----------------------------------------------------------------------------------------

/-- The error is about the token: it tells its source and where it begins, or the contents of the
literal that it is.
-/
inductive Error.IsAbout (token : Token) : Error → Prop
  | unexpectedToken (expected : Expected)
    : IsAbout token (.unexpectedToken expected token.kind.source token.offset)
  | unknownSelector : IsAbout token (.unknownSelector token.kind.source token.offset)
  | invalidTime {literal : String} (quoted : token.kind = .quoted literal)
    : IsAbout token (.invalidTime literal)
  | unknownEvent {literal : String} (quoted : token.kind = .quoted literal)
    : IsAbout token (.unknownEvent literal)
  | unknownStatus {literal : String} (quoted : token.kind = .quoted literal)
    : IsAbout token (.unknownStatus literal)

variable {token : Token} {error : Error}

theorem Token.isAbout_of_selector (failed : token.selector = .error error)
    : error.IsAbout token := by
  obtain ⟨kind, offset⟩ := token
  cases kind with
  | word word =>
      simp only [selector] at failed
      split at failed
      · cases failed
      · cases failed
        exact .unknownSelector
  | equals | quoted =>
      cases failed
      exact .unexpectedToken _

theorem Token.isAbout_of_literal (failed : token.literal = .error error)
    : error.IsAbout token := by
  obtain ⟨kind, offset⟩ := token
  cases kind with
  | quoted text => cases failed
  | word | equals =>
      cases failed
      exact .unexpectedToken _

theorem isAbout_of_timeOfLiteral {literal : String} (quoted : token.kind = .quoted literal)
    (failed : timeOfLiteral literal = .error error)
    : error.IsAbout token := by
  unfold timeOfLiteral at failed
  split at failed
  · cases failed
  · cases failed
    exact .invalidTime quoted

theorem isAbout_of_conditionOfLiteral {about : Attribute} {literal : String}
    (quoted : token.kind = .quoted literal)
    (failed : conditionOfLiteral about literal = .error error)
    : error.IsAbout token := by
  cases about with
  | address | user => cases failed
  | time =>
      cases timed : timeOfLiteral literal with
      | ok time => simp [conditionOfLiteral, timed, Except.map] at failed
      | error reason =>
          simp only [conditionOfLiteral, timed, Except.map, Except.error.injEq] at failed
          exact isAbout_of_timeOfLiteral quoted (failed ▸ timed)
  | event =>
      simp only [conditionOfLiteral] at failed
      split at failed
      · cases failed
      · cases failed
        exact .unknownEvent quoted
  | status =>
      simp only [conditionOfLiteral] at failed
      split at failed
      · cases failed
      · cases failed
        exact .unknownStatus quoted

namespace Stage

theorem isAbout_of_expectWord {word : String} {next : Stage}
    (failed : expectWord token word next = .error error)
    : error.IsAbout token := by
  unfold expectWord at failed
  split at failed
  · cases failed
  · cases failed
    exact .unexpectedToken _

theorem isAbout_of_map_selector {next : Attribute → Stage}
    (failed : token.selector.map next = .error error)
    : error.IsAbout token := by
  cases selected : token.selector with
  | ok about => simp [selected, Except.map] at failed
  | error reason =>
      simp only [selected, Except.map, Except.error.injEq] at failed
      exact Token.isAbout_of_selector (failed ▸ selected)

theorem isAbout_of_readLiteral {α : Type} {read : String → Except Error α} {next : α → Stage}
    (about
      : ∀ literal, token.kind = .quoted literal → read literal = .error error → error.IsAbout token)
    (failed : (do return next (← read (← token.literal))) = .error error)
    : error.IsAbout token := by
  rcases bind_eq_error_iff.mp failed with other | ⟨literal, found, failed⟩
  · exact Token.isAbout_of_literal other
  · rcases bind_eq_error_iff.mp failed with unread | ⟨value, _, impossible⟩
    · exact about literal (Token.literal_eq_ok_iff.mp found) unread
    · cases impossible

/-- A stage that does not go on past a token says so of this token. -/
theorem isAbout_of_step {stage : Stage} (failed : stage.step token = .error error)
    : error.IsAbout token := by
  cases stage with
  | start | date | between | conjunction => exact isAbout_of_expectWord failed
  | selector | field => exact isAbout_of_map_selector failed
  | value => exact isAbout_of_readLiteral (fun _ => isAbout_of_conditionOfLiteral) failed
  | after | before => exact isAbout_of_readLiteral (fun _ => isAbout_of_timeOfLiteral) failed
  | selected =>
      simp only [step] at failed
      split at failed
      · cases failed
      · split at failed
        · cases failed
        · cases failed
          exact .unexpectedToken _
  | equals | conditioned =>
      simp only [step] at failed
      split at failed
      · cases failed
      · cases failed
        exact .unexpectedToken _
  | complete =>
      cases failed
      exact .unexpectedToken _

theorem exists_of_finish_eq_error {stage : Stage} (failed : stage.finish = .error error)
    : ∃ expected, error = .unexpectedEnd expected := by
  cases stage <;> cases failed <;> exact ⟨_, rfl⟩

end Stage

-----------------------------------------------------------------------------------------
-- The first culprit
-----------------------------------------------------------------------------------------

/-- The tokens of a text fail to be a query at a place: those before it are the beginning of one.
Either there are no more, and more are expected, or no query begins with them and the next one,
which is what the error is about and which stands in the text where the error says.
-/
inductive FailsAt (text : String) (found : List Token) : Nat → Error → Prop
  | ending (expected : Expected) (viable : Viable (found.map (·.kind)))
    (unfinished : ¬Accepted (found.map (·.kind)))
    : FailsAt text found found.length (.unexpectedEnd expected)
  | culprit {place : Nat} {token : Token} {error : Error}
    (viable : Viable ((found.take place).map (·.kind))) (next : found[place]? = some token)
    (stuck : ¬Viable ((found.take (place + 1)).map (·.kind))) (about : error.IsAbout token)
    (stands : token.StandsIn text)
    : FailsAt text found place error

/-- When the reader stops at a token, no query begins with the tokens up to this one. -/
theorem exists_failsAt_of_stuck {text : String} {found : List Token} {error : Error}
    (read : tokens text = .ok found) (stuck : found.foldlM Stage.step .start = .error error)
    : ∃ place, FailsAt text found place error := by
  have sound := sound_of_tokens read
  obtain ⟨front, token, back, stage, rfl, reached, stopped⟩ := foldlM_eq_error_iff.mp stuck
  have before : (front ++ token :: back).take front.length = front := List.take_left
  have upTo : (front ++ token :: back).take (front.length + 1) = front ++ [token] :=
    List.take_length_add_append 1
  refine ⟨front.length, .culprit ?_ (by simp) ?_ (Stage.isAbout_of_step stopped) ?_⟩
  · rw [List.map_append] at sound
    rw [before]
    exact viable_iff.mpr
      ⟨(List.forall_mem_append.mp sound).1, stage, Stage.foldlM_eq_ok_iff.mp reached⟩
  · rw [upTo]
    intro viable
    obtain ⟨-, next, leads⟩ := viable_iff.mp viable
    have taken := Stage.foldlM_eq_ok_iff.mpr leads
    rw [foldlM_eq_error_iff.mpr ⟨front, token, [], stage, rfl, reached, stopped⟩] at taken
    cases taken
  · exact standsIn_of_mem_tokens read (by simp)

/-- When the reader goes on past all tokens and no query ends there, more are expected. -/
theorem failsAt_of_unfinished {text : String} {found : List Token} {stage : Stage} {error : Error}
    (read : tokens text = .ok found) (reached : found.foldlM Stage.step .start = .ok stage)
    (unfinished : stage.finish = .error error)
    : FailsAt text found found.length error := by
  obtain ⟨expected, rfl⟩ := Stage.exists_of_finish_eq_error unfinished
  refine .ending expected ?_ fun accepted => ?_
  · exact viable_iff.mpr ⟨sound_of_tokens read, stage, Stage.foldlM_eq_ok_iff.mp reached⟩
  · obtain ⟨-, query, reads⟩ := accepted_iff.mp accepted
    have finished := Stage.reads_iff.mpr reads
    rw [bind_eq_error_iff.mpr (.inr ⟨stage, reached, unfinished⟩)] at finished
    cases finished

/-- A text that has tokens and is no query fails at the first place where it cannot be one. -/
theorem parse_eq_error_at_culprit {text : String} {found : List Token} {error : Error}
    (read : tokens text = .ok found) (nonempty : found ≠ []) (failed : parse text = .error error)
    : ∃ place, FailsAt text found place error := by
  have whole : (found.foldlM Stage.step .start >>= Stage.finish) = .error error := by
    rw [parse_eq_ofTokens read] at failed
    cases found with
    | nil => exact absurd rfl nonempty
    | cons token rest => exact failed
  rcases bind_eq_error_iff.mp whole with stuck | ⟨stage, reached, unfinished⟩
  · exact exists_failsAt_of_stuck read stuck
  · exact ⟨found.length, failsAt_of_unfinished read reached unfinished⟩

/-- Behind a clause that is complete, with a literal of two bytes a character in it, stands a word
that begins no other.
-/
theorem parse_eq_error_at_culprit_trailing
    : let text := "get ip for user=\"Вася\" or"
      let found : List Token :=
        [
          { kind := .word "get", offset := 0 },
          { kind := .word "ip", offset := 4 },
          { kind := .word "for", offset := 7 },
          { kind := .word "user", offset := 11 },
          { kind := .equals, offset := 15 },
          { kind := .quoted "Вася", offset := 16 },
          { kind := .word "or", offset := 27 }
        ]
      let error : Error := .unexpectedToken .ending "or" 27
      (tokens text = .ok found ∧ found ≠ [] ∧ parse text = .error error)
      ∧ ∃ place, FailsAt text found place error := by
  intro text found error
  have read : tokens text = .ok found := by decide +kernel
  have nonempty : found ≠ [] := List.cons_ne_nil _ _
  have failed : parse text = .error error := by decide +kernel
  exact ⟨⟨read, nonempty, failed⟩, parse_eq_error_at_culprit read nonempty failed⟩

end Query

end Logbook
