import Logbook.Proofs.Query.Spelling
import Logbook.Proofs.Query.Tiling

/-! The tokens that a query can begin with.
From every stage of the reader some tokens still complete a query. So the tokens that lead to a
stage are the beginning of a query, and those that lead to none are not.
-/

namespace Logbook.Query

-----------------------------------------------------------------------------------------
-- A query can be completed from every stage
-----------------------------------------------------------------------------------------

namespace Stage

/-- Some tokens that can be written complete a query from this stage. -/
def Completable (stage : Stage) : Prop :=
  ∃ more query, (∀ kind ∈ more, kind.Sound) ∧ stage.Reads more query

theorem Completable.of_finish {stage : Stage} {query : Query} (finished : stage.finish = .ok query)
    : stage.Completable :=
  ⟨[], query, List.forall_mem_nil _, .finish finished⟩

theorem Completable.of_advance {stage next : Stage} {kind : TokenKind}
    (advance : stage.Advance kind next) (sound : kind.Sound) (h : next.Completable)
    : stage.Completable := by
  obtain ⟨more, query, behind, reads⟩ := h
  exact ⟨kind :: more, query, List.forall_mem_cons.mpr ⟨sound, behind⟩, .step advance reads⟩

/-- Every attribute has some value that can be written. -/
theorem exists_gives (about : Attribute)
    : ∃ literal condition, Gives about literal condition ∧ (TokenKind.quoted literal).Sound := by
  cases about with
  | address => exact ⟨"", _, .address "", nofun⟩
  | user => exact ⟨"", _, .user "", nofun⟩
  | time =>
      refine ⟨String.ofList Instant.earliest.text, .time .earliest, .time ?_, quote_not_mem_text _⟩
      rw [String.toList_ofList, Instant.read?_text]
  | event => exact ⟨"LOGIN", .event .login, .event (by decide), by simp [TokenKind.Sound]⟩
  | status => exact ⟨"OK", .status .ok, .status (by decide), by simp [TokenKind.Sound]⟩

/-- The stages are gone through from the last one back to the first, since each goes on to one from
which a query is known to be completed.
-/
theorem completable (stage : Stage) : stage.Completable := by
  let some_time := String.ofList Instant.earliest.text
  have quoted : (TokenKind.quoted some_time).Sound := quote_not_mem_text _
  have timed : Instant.read? some_time.toList = some Instant.earliest := by
    rw [String.toList_ofList, Instant.read?_text]
  have word (text : String) (shown : text.toList.isEmpty = false ∧ text.toList.all isWordChar)
      : (TokenKind.word text).Sound :=
    sound_word (List.isEmpty_eq_false_iff.mp shown.1) shown.2
  have complete (query : Query) : (complete query).Completable := .of_finish rfl
  have before (draft : Query) (time : Instant) : (before draft time).Completable :=
    .of_advance (.before draft time timed) quoted (complete _)
  have conjunction (draft : Query) (time : Instant) : (conjunction draft time).Completable :=
    .of_advance (.conjunction draft time) (word "and" (by decide)) (before draft time)
  have after (draft : Query) : (after draft).Completable :=
    .of_advance (.after draft timed) quoted (conjunction draft _)
  have between (draft : Query) : (between draft).Completable :=
    .of_advance (.between draft) (word "between" (by decide)) (after draft)
  have date (draft : Query) : (date draft).Completable :=
    .of_advance (.date draft) (word "date" (by decide)) (between draft)
  have value (draft : Query) (about : Attribute) : (value draft about).Completable := by
    obtain ⟨literal, condition, gives, sound⟩ := exists_gives about
    exact .of_advance (.value draft gives) sound (.of_finish rfl)
  have equals (draft : Query) (about : Attribute) : (equals draft about).Completable :=
    .of_advance (.equals draft about) trivial (value draft about)
  have field (draft : Query) : (field draft).Completable :=
    .of_advance (.field draft .user) (sound_keyword .user) (equals draft .user)
  have selector : selector.Completable :=
    .of_advance (.selector .address) (sound_keyword .address) (.of_finish rfl)
  cases stage with
  | start => exact .of_advance .start (word "get" (by decide)) selector
  | selector => exact selector
  | selected | conditioned => exact .of_finish rfl
  | field draft => exact field draft
  | equals draft about => exact equals draft about
  | value draft about => exact value draft about
  | date draft => exact date draft
  | between draft => exact between draft
  | after draft => exact after draft
  | conjunction draft time => exact conjunction draft time
  | before draft time => exact before draft time
  | complete query => exact complete query

end Stage

-----------------------------------------------------------------------------------------
-- Tokens that are a query, or the beginning of one
-----------------------------------------------------------------------------------------

/-- Some query has tokens of exactly these kinds. -/
def Accepted (kinds : List TokenKind) : Prop :=
  ∃ text found query,
    tokens text = .ok found ∧ found.map (·.kind) = kinds ∧ parse text = .ok query

/-- Some query begins with tokens of these kinds. -/
def Viable (kinds : List TokenKind) : Prop := ∃ more, Accepted (kinds ++ more)

theorem parse_eq_ofTokens {text : String} {found : List Token} (read : tokens text = .ok found)
    : parse text = ofTokens found := by
  rw [parse, read]
  rfl

theorem sound_of_tokens {text : String} {found : List Token} (read : tokens text = .ok found)
    : ∀ kind ∈ found.map (·.kind), kind.Sound := by
  obtain ⟨layout, -, rfl⟩ := tokens_eq_ok_iff_exists_layout.mp read
  rw [layout.map_kind_tokensFrom]
  intro kind member
  obtain ⟨piece, -, rfl⟩ := List.mem_map.mp member
  exact piece.sound

theorem accepted_iff {kinds : List TokenKind}
    : Accepted kinds
      ↔ (∀ kind ∈ kinds, kind.Sound) ∧ ∃ query, Stage.start.Reads kinds query := by
  constructor
  · rintro ⟨text, found, query, read, rfl, parsed⟩
    rw [parse_eq_ofTokens read, ofTokens_eq_ok_iff, ← Stage.reads_start_iff] at parsed
    exact ⟨sound_of_tokens read, query, parsed⟩
  · rintro ⟨sound, query, reads⟩
    obtain ⟨layout, rfl, -⟩ := Layout.exists_spaced sound
    have read : tokens (String.ofList layout.text) = .ok (layout.tokensFrom 0) :=
      tokens_eq_ok_iff_exists_layout.mpr ⟨layout, by rw [String.toList_ofList], rfl⟩
    refine ⟨_, _, query, read, layout.map_kind_tokensFrom 0, ?_⟩
    rwa [parse_eq_ofTokens read, ofTokens_eq_ok_iff, ← Stage.reads_start_iff,
      layout.map_kind_tokensFrom]

/-- Tokens are the beginning of a query as long as the reader goes on past them. -/
theorem viable_iff {kinds : List TokenKind}
    : Viable kinds ↔ (∀ kind ∈ kinds, kind.Sound) ∧ ∃ stage, Stage.start.Leads kinds stage := by
  constructor
  · rintro ⟨more, accepted⟩
    obtain ⟨sound, query, reads⟩ := accepted_iff.mp accepted
    obtain ⟨stage, leads, -⟩ := Stage.reads_append_iff.mp reads
    exact ⟨(List.forall_mem_append.mp sound).1, stage, leads⟩
  · rintro ⟨sound, stage, leads⟩
    obtain ⟨more, query, behind, reads⟩ := stage.completable
    refine ⟨more, accepted_iff.mpr ⟨List.forall_mem_append.mpr ⟨sound, behind⟩, query, ?_⟩⟩
    exact Stage.reads_append_iff.mpr ⟨stage, leads, reads⟩

end Logbook.Query
