import Logbook.Query.Parse

/-! What every stage of the query reader goes on past.
Which token is accepted, and which stage comes next, depends on what the token is and not on where
it stands. Accepting a whole list of tokens is stated over these steps.
-/

namespace Logbook

theorem bind_eq_ok_iff {ε α β : Type} {result : Except ε α} {next : α → Except ε β} {value : β}
    : (result >>= next) = .ok value ↔ ∃ middle, result = .ok middle ∧ next middle = .ok value := by
  cases result <;> simp [bind, Except.bind]

theorem Attribute.ofKeyword?_eq_some_iff {word : String} {about : Attribute}
    : Attribute.ofKeyword? word = some about ↔ word = about.keyword := by
  constructor
  · intro found
    have named := List.find?_some found
    simpa using (beq_iff_eq.mp named).symm
  · rintro rfl
    cases about <;> decide

theorem Attribute.keyword_inj {about other : Attribute}
    : about.keyword = other.keyword ↔ about = other := by
  cases about <;> cases other <;> decide

namespace Query

-----------------------------------------------------------------------------------------
-- Keywords and literals
-----------------------------------------------------------------------------------------

/-- A literal gives this value to an attribute. Addresses and users are taken as written. -/
inductive Gives : Attribute → String → Condition → Prop
  | address (literal : String) : Gives .address literal (.address literal)
  | user (literal : String) : Gives .user literal (.user literal)
  | time {literal : String} {time : Instant} (read : Instant.read? literal.toList = some time)
    : Gives .time literal (.time time)
  | event {literal : String} {event : Event} (named : Event.ofName? literal = some event)
    : Gives .event literal (.event event)
  | status {literal : String} {status : Status} (named : Status.ofName? literal = some status)
    : Gives .status literal (.status status)

theorem timeOfLiteral_eq_ok_iff {literal : String} {time : Instant}
    : timeOfLiteral literal = .ok time ↔ Instant.read? literal.toList = some time := by
  unfold timeOfLiteral
  split <;> simp [*]

theorem conditionOfLiteral_eq_ok_iff {about : Attribute} {literal : String} {condition : Condition}
    : conditionOfLiteral about literal = .ok condition ↔ Gives about literal condition := by
  constructor
  · intro read
    cases about with
    | address => exact Except.ok.inj read ▸ .address literal
    | user => exact Except.ok.inj read ▸ .user literal
    | time =>
        rw [conditionOfLiteral] at read
        cases timed : timeOfLiteral literal with
        | error e => simp [timed, Except.map] at read
        | ok time =>
            rw [timed] at read
            exact Except.ok.inj read ▸ .time (timeOfLiteral_eq_ok_iff.mp timed)
    | event =>
        simp only [conditionOfLiteral] at read
        split at read
        · next named => exact Except.ok.inj read ▸ .event named
        · contradiction
    | status =>
        simp only [conditionOfLiteral] at read
        split at read
        · next named => exact Except.ok.inj read ▸ .status named
        · contradiction
  · rintro (_ | _ | read | named | named)
    · rfl
    · rfl
    · rw [conditionOfLiteral, timeOfLiteral_eq_ok_iff.mpr read]
      rfl
    · simp only [conditionOfLiteral, named]
    · simp only [conditionOfLiteral, named]

namespace Token

theorem isWord_eq_true {token : Token} {word : String}
    : token.isWord word = true ↔ token.kind = .word word := by
  simp [isWord]

theorem selector_eq_ok_iff {token : Token} {about : Attribute}
    : token.selector = .ok about ↔ token.kind = .word about.keyword := by
  obtain ⟨kind, offset⟩ := token
  cases kind with
  | word word =>
      simp only [selector, TokenKind.word.injEq, ← Attribute.ofKeyword?_eq_some_iff]
      cases Attribute.ofKeyword? word <;> simp
  | equals => simp [selector]
  | quoted text => simp [selector]

theorem literal_eq_ok_iff {token : Token} {text : String}
    : token.literal = .ok text ↔ token.kind = .quoted text := by
  obtain ⟨kind, offset⟩ := token
  cases kind <;> simp [literal]

end Token

-----------------------------------------------------------------------------------------
-- The steps of the reader
-----------------------------------------------------------------------------------------

namespace Stage

/-- A stage goes on past a token that is this, to the next stage. -/
inductive Advance : Stage → TokenKind → Stage → Prop
  | start : Advance .start (.word "get") .selector
  | selector (select : Attribute)
    : Advance .selector (.word select.keyword) (.selected { select })
  | condition (draft : Query) : Advance (.selected draft) (.word "for") (.field draft)
  | field (draft : Query) (about : Attribute)
    : Advance (.field draft) (.word about.keyword) (.equals draft about)
  | equals (draft : Query) (about : Attribute)
    : Advance (.equals draft about) .equals (.value draft about)
  | value (draft : Query) {about : Attribute} {literal : String} {condition : Condition}
    (gives : Gives about literal condition)
    : Advance (.value draft about) (.quoted literal)
        (.conditioned { draft with condition := some condition })
  | window (draft : Query) : Advance (.selected draft) (.word "and") (.date draft)
  | conditioned (draft : Query) : Advance (.conditioned draft) (.word "and") (.date draft)
  | date (draft : Query) : Advance (.date draft) (.word "date") (.between draft)
  | between (draft : Query) : Advance (.between draft) (.word "between") (.after draft)
  | after (draft : Query) {literal : String} {time : Instant}
    (read : Instant.read? literal.toList = some time)
    : Advance (.after draft) (.quoted literal) (.conjunction draft time)
  | conjunction (draft : Query) (time : Instant)
    : Advance (.conjunction draft time) (.word "and") (.before draft time)
  | before (draft : Query) (time : Instant) {literal : String} {closing : Instant}
    (read : Instant.read? literal.toList = some closing)
    : Advance (.before draft time) (.quoted literal)
        (.complete { draft with window := some (.between time closing) })

theorem expectWord_eq_ok_iff {token : Token} {word : String} {next after : Stage}
    : expectWord token word next = .ok after ↔ token.kind = .word word ∧ next = after := by
  rw [expectWord, ← Token.isWord_eq_true]
  split <;> simp [*]

theorem map_selector_eq_ok_iff {token : Token} {next : Attribute → Stage} {after : Stage}
    : token.selector.map next = .ok after
      ↔ ∃ about : Attribute, token.kind = .word about.keyword ∧ next about = after := by
  simp only [← Token.selector_eq_ok_iff]
  cases token.selector <;> simp [Except.map]

theorem readLiteral_eq_ok_iff {α : Type} {token : Token} {read : String → Except Error α}
    {next : α → Stage} {after : Stage}
    : (do return next (← read (← token.literal))) = .ok after
      ↔ ∃ literal value,
          token.kind = .quoted literal ∧ read literal = .ok value ∧ next value = after := by
  simp only [← Token.literal_eq_ok_iff, bind_eq_ok_iff, pure, Except.pure, Except.ok.injEq]
  constructor
  · rintro ⟨literal, quoted, value, read, same⟩
    exact ⟨literal, value, quoted, read, same⟩
  · rintro ⟨literal, value, quoted, read, same⟩
    exact ⟨literal, quoted, value, read, same⟩

/-- The only steps of the reader are those by which its stages go on. -/
theorem step_eq_ok_iff {stage next : Stage} {token : Token}
    : stage.step token = .ok next ↔ stage.Advance token.kind next := by
  constructor
  · intro taken
    cases stage with
    | start =>
        obtain ⟨kind, rfl⟩ := expectWord_eq_ok_iff.mp taken
        exact kind ▸ .start
    | selector =>
        obtain ⟨select, kind, rfl⟩ := map_selector_eq_ok_iff.mp taken
        exact kind ▸ .selector select
    | selected draft =>
        simp only [step, Token.isWord_eq_true] at taken
        split at taken
        · next kind => exact Except.ok.inj taken ▸ kind ▸ .condition draft
        · split at taken
          · next kind => exact Except.ok.inj taken ▸ kind ▸ .window draft
          · contradiction
    | field draft =>
        obtain ⟨about, kind, rfl⟩ := map_selector_eq_ok_iff.mp taken
        exact kind ▸ .field draft about
    | equals draft about =>
        simp only [step] at taken
        split at taken
        · next kind => exact Except.ok.inj taken ▸ kind ▸ .equals draft about
        · contradiction
    | value draft about =>
        obtain ⟨literal, condition, kind, given, rfl⟩ := readLiteral_eq_ok_iff.mp taken
        exact kind ▸ .value draft (conditionOfLiteral_eq_ok_iff.mp given)
    | conditioned draft =>
        simp only [step, Token.isWord_eq_true] at taken
        split at taken
        · next kind => exact Except.ok.inj taken ▸ kind ▸ .conditioned draft
        · contradiction
    | date draft =>
        obtain ⟨kind, rfl⟩ := expectWord_eq_ok_iff.mp taken
        exact kind ▸ .date draft
    | between draft =>
        obtain ⟨kind, rfl⟩ := expectWord_eq_ok_iff.mp taken
        exact kind ▸ .between draft
    | after draft =>
        obtain ⟨literal, time, kind, timed, rfl⟩ := readLiteral_eq_ok_iff.mp taken
        exact kind ▸ .after draft (timeOfLiteral_eq_ok_iff.mp timed)
    | conjunction draft time =>
        obtain ⟨kind, rfl⟩ := expectWord_eq_ok_iff.mp taken
        exact kind ▸ .conjunction draft time
    | before draft time =>
        obtain ⟨literal, closing, kind, timed, rfl⟩ := readLiteral_eq_ok_iff.mp taken
        exact kind ▸ .before draft time (timeOfLiteral_eq_ok_iff.mp timed)
    | complete query => contradiction
  · intro advance
    obtain ⟨kind, offset⟩ := token
    cases advance with
    | selector select =>
        exact map_selector_eq_ok_iff.mpr ⟨select, rfl, rfl⟩
    | field draft about =>
        exact map_selector_eq_ok_iff.mpr ⟨about, rfl, rfl⟩
    | value draft gives =>
        exact readLiteral_eq_ok_iff.mpr
          ⟨_, _, rfl, conditionOfLiteral_eq_ok_iff.mpr gives, rfl⟩
    | after draft read =>
        exact readLiteral_eq_ok_iff.mpr ⟨_, _, rfl, timeOfLiteral_eq_ok_iff.mpr read, rfl⟩
    | before draft time read =>
        exact readLiteral_eq_ok_iff.mpr ⟨_, _, rfl, timeOfLiteral_eq_ok_iff.mpr read, rfl⟩
    | _ => rfl

-----------------------------------------------------------------------------------------
-- Lists of tokens that are accepted
-----------------------------------------------------------------------------------------

/-- Reading these tokens leads from one stage to another. -/
inductive Leads : Stage → List TokenKind → Stage → Prop
  | stay (stage : Stage) : Leads stage [] stage
  | step {stage next last : Stage} {kind : TokenKind} {rest : List TokenKind}
    (advance : stage.Advance kind next) (leads : Leads next rest last)
    : Leads stage (kind :: rest) last

/-- Reading on from a stage accepts these tokens as this query. -/
inductive Reads : Stage → List TokenKind → Query → Prop
  | finish {stage : Stage} {query : Query} (finished : stage.finish = .ok query)
    : Reads stage [] query
  | step {stage next : Stage} {kind : TokenKind} {rest : List TokenKind} {query : Query}
    (advance : stage.Advance kind next) (reads : Reads next rest query)
    : Reads stage (kind :: rest) query

/-- Where tokens lead depends on what they are, and not on where they stand. -/
theorem foldlM_eq_ok_iff {stage last : Stage} {found : List Token}
    : found.foldlM step stage = .ok last ↔ stage.Leads (found.map (·.kind)) last := by
  induction found generalizing stage with
  | nil =>
      constructor
      · intro same
        exact Except.ok.inj same ▸ .stay stage
      · intro leads
        cases leads with
        | stay => rfl
  | cons token rest ih =>
      rw [List.foldlM_cons, bind_eq_ok_iff, List.map_cons]
      constructor
      · rintro ⟨next, taken, read⟩
        exact .step (step_eq_ok_iff.mp taken) (ih.mp read)
      · intro leads
        cases leads with
        | step advance leads => exact ⟨_, step_eq_ok_iff.mpr advance, ih.mpr leads⟩

/-- What is accepted leads to a stage that accepts the rest, wherever it is cut. -/
theorem reads_append_iff {stage : Stage} {front back : List TokenKind} {query : Query}
    : stage.Reads (front ++ back) query
      ↔ ∃ middle, stage.Leads front middle ∧ middle.Reads back query := by
  induction front generalizing stage with
  | nil =>
      constructor
      · intro reads
        exact ⟨stage, .stay stage, reads⟩
      · rintro ⟨_, ⟨⟩, reads⟩
        exact reads
  | cons kind rest ih =>
      constructor
      · intro reads
        cases reads with
        | step advance reads =>
            obtain ⟨middle, leads, reads⟩ := ih.mp reads
            exact ⟨middle, .step advance leads, reads⟩
      · rintro ⟨middle, leads, reads⟩
        cases leads with
        | step advance leads => exact .step advance (ih.mpr ⟨middle, leads, reads⟩)

theorem reads_nil_iff {stage : Stage} {query : Query}
    : stage.Reads [] query ↔ stage.finish = .ok query := by
  constructor
  · intro reads
    cases reads with
    | finish finished => exact finished
  · exact .finish

/-- The tokens of a query lead to a stage at which it ends. -/
theorem reads_iff {stage : Stage} {found : List Token} {query : Query}
    : (found.foldlM step stage >>= finish) = .ok query
      ↔ stage.Reads (found.map (·.kind)) query := by
  rw [bind_eq_ok_iff, ← List.append_nil (found.map (·.kind)), reads_append_iff]
  simp only [foldlM_eq_ok_iff, reads_nil_iff]

end Stage

end Query

end Logbook
