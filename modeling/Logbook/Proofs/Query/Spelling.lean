import Logbook.Proofs.Instant.ReadBack
import Logbook.Proofs.Query.Grammar

/-! Queries written with single spaces.
Such a text lays out its tokens, whatever stands in its literals, so it is read as the query that
it was written for.
-/

namespace Logbook.Query

open Text

/-- The beginning of a query: the attribute that is asked for. -/
def get (select : Attribute) : String := "get " ++ select.keyword

/-- The clause that tells which value an attribute has. -/
def forValue (about : Attribute) (literal : String) : String :=
  " for " ++ about.keyword ++ " = \"" ++ literal ++ "\""

/-- The clause that bounds the time. -/
def during (opening closing : Instant) : String :=
  " and date between \"" ++ String.ofList opening.text ++ "\" and \""
    ++ String.ofList closing.text ++ "\""

/-- Tokens with one space in front of each. -/
def spaced (kinds : List TokenKind) : List Char :=
  kinds.flatMap fun kind => ' ' :: kind.source.toList

theorem toList_get (select : Attribute)
    : (get select).toList = "get".toList ++ spaced [.word select.keyword] := by
  cases select <;> decide

@[simp]
theorem spaced_nil : spaced [] = [] := rfl

@[simp]
theorem spaced_cons (kind : TokenKind) (rest : List TokenKind)
    : spaced (kind :: rest) = ' ' :: (kind.source.toList ++ spaced rest) :=
  rfl

theorem toList_forValue (about : Attribute) (literal : String)
    : (forValue about literal).toList = spaced (Phrase.filterKinds (some (about, literal))) := by
  simp [forValue, Phrase.filterKinds, TokenKind.source]

example : get .address ++ forValue .user "Amigo" = "get ip for user = \"Amigo\"" := by decide

theorem toList_during (opening closing : Instant)
    : (during opening closing).toList
      = spaced
          (Phrase.boundsKinds
            (some (String.ofList opening.text, String.ofList closing.text))) := by
  have opens : " and date between \"".toList
      = spaced [.word "and", .word "date", .word "between"] ++ [' ', '"'] := by decide
  have goes_on : "\" and \"".toList = '"' :: (spaced [.word "and"] ++ [' ', '"']) := by decide
  unfold during
  simp only [Phrase.boundsKinds, String.toList_append, opens, goes_on, spaced_cons,
    spaced_nil, source_quoted, List.append_assoc, List.cons_append, List.nil_append]
  rfl

theorem endsRun_spaced (kinds : List TokenKind) : EndsRun isWordChar (spaced kinds) := by
  cases kinds with
  | nil => exact endsRun_nil
  | cons kind rest => exact endsRun_cons.mpr (by decide)

-----------------------------------------------------------------------------------------
-- Sound tokens can be written with single spaces
-----------------------------------------------------------------------------------------

/-- Any tokens that can be written can be written so. -/
theorem Layout.exists_spaced {kinds : List TokenKind} (sound : ∀ kind ∈ kinds, kind.Sound)
    : ∃ layout : Layout, layout.kinds = kinds ∧ layout.text = spaced kinds := by
  induction kinds with
  | nil => exact ⟨empty, rfl, rfl⟩
  | cons kind rest ih =>
      obtain ⟨kind_sound, rest_sound⟩ := List.forall_mem_cons.mp sound
      obtain ⟨layout, kinds, spelled⟩ := ih rest_sound
      have space : ∀ c ∈ [' '], isBlank c = true := by simp [isBlank]
      obtain ⟨longer, longer_text, longer_tokens⟩ :=
        layout.exists_behind_token kind_sound (fun _ => spelled ▸ endsRun_spaced rest)
      obtain ⟨wider, wider_text, wider_tokens⟩ := longer.exists_behind_gap space
      refine ⟨wider, ?_, ?_⟩
      · rw [kinds_eq_cons ((wider_tokens 0).trans (longer_tokens _)), kinds]
      · rw [wider_text, longer_text, spelled]
        rfl

theorem sound_word {text : String} (nonempty : text.toList ≠ [])
    (all : text.toList.all isWordChar = true)
    : (TokenKind.word text).Sound :=
  ⟨nonempty, List.all_eq_true.mp all⟩

theorem sound_keyword (about : Attribute) : (TokenKind.word about.keyword).Sound := by
  cases about <;> exact sound_word (by decide) (by decide)

namespace Phrase

/-- The literals of a phrase hold no quote. -/
structure Closed (phrase : Phrase) : Prop where
  filter : ∀ clause ∈ phrase.filter, '"' ∉ clause.2.toList
  bounds : ∀ clause ∈ phrase.bounds, '"' ∉ clause.1.toList ∧ '"' ∉ clause.2.toList

theorem Closed.sound_kinds {phrase : Phrase} (closed : phrase.Closed)
    : ∀ kind ∈ phrase.kinds, kind.Sound := by
  have filter : ∀ kind ∈ filterKinds phrase.filter, kind.Sound := by
    cases hf : phrase.filter with
    | none => exact List.forall_mem_nil _
    | some clause =>
        simp only [filterKinds, List.forall_mem_cons]
        exact ⟨sound_word (by decide) (by decide), sound_keyword clause.1, trivial,
          closed.filter clause hf, List.forall_mem_nil _⟩
  have bounds : ∀ kind ∈ boundsKinds phrase.bounds, kind.Sound := by
    cases hb : phrase.bounds with
    | none => exact List.forall_mem_nil _
    | some clause =>
        obtain ⟨opening, closing⟩ := closed.bounds clause hb
        have word : (TokenKind.word "and").Sound := sound_word (by decide) (by decide)
        simp only [boundsKinds, List.forall_mem_cons]
        exact ⟨word, sound_word (by decide) (by decide), sound_word (by decide) (by decide),
          opening, word, closing, List.forall_mem_nil _⟩
  intro kind hk
  simp only [kinds, List.mem_cons, List.mem_append] at hk
  rcases hk with rfl | rfl | hk | hk
  · exact sound_word (by decide) (by decide)
  · exact sound_keyword phrase.select
  · exact filter kind hk
  · exact bounds kind hk

theorem Closed.writtenAs {phrase : Phrase} (closed : phrase.Closed) {text : String}
    (spelled : text.toList
      = (get phrase.select).toList
        ++ spaced (filterKinds phrase.filter ++ boundsKinds phrase.bounds))
    : phrase.WrittenAs text := by
  obtain ⟨front, behind⟩ := List.forall_mem_cons.mp closed.sound_kinds
  obtain ⟨layout, layout_kinds, layout_text⟩ := Layout.exists_spaced behind
  obtain ⟨longer, longer_text, longer_tokens⟩ :=
    layout.exists_behind_token front (fun _ => layout_text ▸ endsRun_spaced _)
  refine ⟨longer, ?_, ?_⟩
  · rw [Layout.kinds_eq_cons (longer_tokens 0), layout_kinds]
    rfl
  · rw [longer_text, layout_text, spelled, toList_get]
    simp [TokenKind.source]

end Phrase

-----------------------------------------------------------------------------------------
-- Queries with and without their clauses
-----------------------------------------------------------------------------------------

theorem quote_not_mem_text (t : Instant) : '"' ∉ (String.ofList t.text).toList := by
  rw [String.toList_ofList]
  intro quote
  rcases Instant.isDigit_or_mark_of_mem_text quote with digit | mark
  · exact absurd digit (by decide)
  · exact absurd mark (by decide)

section Written

variable (select : Attribute) (opening closing : Instant)

/-- The clause that bounds the time, as it is written, spells its window. -/
theorem Phrase.bound_during
    : Phrase.Bound (String.ofList opening.text, String.ofList closing.text)
        (.between opening closing) := by
  refine ⟨opening, closing, ?_, ?_, rfl⟩
  · rw [String.toList_ofList, Instant.read?_text]
  · rw [String.toList_ofList, Instant.read?_text]

theorem Phrase.unquoted_during
    : ∀ clause ∈ some (String.ofList opening.text, String.ofList closing.text),
        '"' ∉ clause.1.toList ∧ '"' ∉ clause.2.toList := by
  rintro clause ⟨⟩
  exact ⟨quote_not_mem_text opening, quote_not_mem_text closing⟩

theorem parse_get : parse (get select) = .ok { select } := by
  have closed : Phrase.Closed { select } := ⟨nofun, nofun⟩
  refine parse_eq_ok_iff_exists.mpr ⟨{ select }, closed.writtenAs ?_, rfl, .none, .none⟩
  exact (List.append_nil _).symm

theorem parse_get_during
    : parse (get select ++ during opening closing)
      = .ok { select, window := some (.between opening closing) } := by
  let phrase : Phrase :=
    { select, bounds := some (String.ofList opening.text, String.ofList closing.text) }
  have closed : phrase.Closed := ⟨nofun, Phrase.unquoted_during opening closing⟩
  have window := Phrase.bound_during opening closing
  refine parse_eq_ok_iff_exists.mpr ⟨phrase, closed.writtenAs ?_, rfl, .none, .some window⟩
  rw [String.toList_append, toList_during]
  rfl

theorem parse_get_forValue_during {about : Attribute} {literal : String} {condition : Condition}
    (gives : Gives about literal condition) (unquoted : '"' ∉ literal.toList)
    : parse (get select ++ forValue about literal ++ during opening closing)
      = .ok
          { select, condition := some condition, window := some (.between opening closing) } := by
  let phrase : Phrase :=
    {
      select,
      filter := some (about, literal),
      bounds := some (String.ofList opening.text, String.ofList closing.text),
    }
  have closed : phrase.Closed := by
    refine ⟨?_, Phrase.unquoted_during opening closing⟩
    rintro clause ⟨⟩
    exact unquoted
  have window := Phrase.bound_during opening closing
  refine parse_eq_ok_iff_exists.mpr
    ⟨phrase, closed.writtenAs ?_, rfl, .some gives, .some window⟩
  rw [String.toList_append, String.toList_append, toList_during, toList_forValue,
    List.append_assoc]
  simp [phrase, spaced]

end Written

end Logbook.Query
