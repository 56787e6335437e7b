import Logbook.Proofs.Query.Lexing
import Mathlib.Data.List.Chain

/-! Layouts of tokens in a query text.
A layout puts white space of any length in front of every token and behind the last one. The
tokens that are read from a text are those of its layout, and a text without a layout has none.
-/

namespace Logbook.Query

open Text Text.Utf8

/-- A token and the white space in front of it. -/
structure Piece where
  gap : List Char
  kind : TokenKind
  blank : ∀ c ∈ gap, isBlank c = true
  sound : kind.Sound

/-- White space keeps two words apart. -/
def Piece.Apart (piece next : Piece) : Prop :=
  piece.kind.IsWord → next.kind.IsWord → next.gap ≠ []

/-- Pieces one behind the other, and the white space behind the last one. -/
structure Layout where
  pieces : List Piece
  ending : List Char
  blank : ∀ c ∈ ending, isBlank c = true
  apart : pieces.IsChain Piece.Apart

/-- The text of pieces with another text behind them. -/
def writeBefore (ending : List Char) : List Piece → List Char
  | [] => ending
  | piece :: rest => piece.gap ++ (piece.kind.source.toList ++ writeBefore ending rest)

/-- The tokens of pieces whose text begins at the given offset. -/
def tokensOfPieces (offset : Nat) : List Piece → List Token
  | [] => []
  | piece :: rest =>
      let start := offset + byteLength piece.gap
      { kind := piece.kind, offset := start }
        :: tokensOfPieces (start + byteLength piece.kind.source.toList) rest

namespace Layout

/-- The layout of the empty text. -/
def empty : Layout := { pieces := [], ending := [], blank := List.forall_mem_nil _, apart := .nil }

/-- The text that a layout is. -/
def text (layout : Layout) : List Char := writeBefore layout.ending layout.pieces

/-- What the tokens of a layout are. -/
def kinds (layout : Layout) : List TokenKind := layout.pieces.map (·.kind)

/-- The tokens of a layout whose text begins at the given offset. -/
def tokensFrom (layout : Layout) (offset : Nat) : List Token :=
  tokensOfPieces offset layout.pieces

theorem map_kind_tokensFrom (layout : Layout) (offset : Nat)
    : (layout.tokensFrom offset).map (·.kind) = layout.kinds := by
  rw [tokensFrom, kinds]
  induction layout.pieces generalizing offset with
  | nil => rfl
  | cons piece rest ih => simp [tokensOfPieces, ih]

theorem kinds_eq_cons {layout longer : Layout} {token : Token} {offset : Nat}
    (tokens : longer.tokensFrom 0 = token :: layout.tokensFrom offset)
    : longer.kinds = token.kind :: layout.kinds := by
  rw [← longer.map_kind_tokensFrom 0, tokens, List.map_cons, layout.map_kind_tokensFrom]

end Layout

-----------------------------------------------------------------------------------------
-- The tokens of a layout are read from its text
-----------------------------------------------------------------------------------------

theorem not_isWordChar_of_isBlank {c : Char} (h : isBlank c = true) : isWordChar c = false := by
  simp [isWordChar, h]

theorem TokenKind.Sound.isWordChar_of_isWord {kind : TokenKind} (h : kind.Sound)
    (word : kind.IsWord) {first : Char} {rest : List Char}
    (source : kind.source.toList = first :: rest)
    : isWordChar first = true := by
  cases kind with
  | word text =>
      have inside : first ∈ text.toList := by
        rw [TokenKind.source] at source
        simp [source]
      exact h.2 first inside
  | _ => exact absurd word id

/-- A token that is no word cannot be taken for the rest of one. -/
theorem TokenKind.endsRun_source {kind : TokenKind} (h : ¬ kind.IsWord) (rest : List Char)
    : EndsRun isWordChar (kind.source.toList ++ rest) := by
  cases kind with
  | word text => exact absurd trivial h
  | equals => exact endsRun_cons.mpr (by decide)
  | quoted text =>
      rw [source_quoted]
      exact endsRun_cons.mpr (by decide)

/-- A word ends before pieces that are apart from it. -/
theorem endsRun_writeBefore {ending : List Char} (blank : ∀ c ∈ ending, isBlank c = true)
    {piece : Piece} {rest : List Piece} (apart : (piece :: rest).IsChain Piece.Apart)
    (word : piece.kind.IsWord)
    : EndsRun isWordChar (writeBefore ending rest) := by
  cases rest with
  | nil =>
      intro c hc
      exact not_isWordChar_of_isBlank (blank c (List.mem_of_mem_head? hc))
  | cons next rest =>
      rw [writeBefore]
      by_cases gap : next.gap = []
      · rw [gap, List.nil_append]
        exact TokenKind.endsRun_source
          (fun next_word => (List.isChain_cons_cons.mp apart).1 word next_word gap) _
      · exact endsRun_append _ gap (fun c hc => not_isWordChar_of_isBlank (next.blank c hc))

/-- White space is passed over, up to what is no white space. -/
theorem tokensFrom_gap {gap more : List Char} (offset : Nat)
    (blank : ∀ c ∈ gap, isBlank c = true) (ends : EndsRun isBlank more)
    : tokensFrom offset (gap ++ more) = tokensFrom (offset + byteLength gap) more := by
  by_cases empty : gap = []
  · simp [empty]
  · have front : (Lexeme.gap gap).EndsBefore more := ⟨empty, blank, ends⟩
    have read := tokensFrom_append offset front
    rwa [tokensAmong_gap] at read

theorem tokensFrom_token {kind : TokenKind} {more : List Char} (offset : Nat)
    (sound : kind.Sound) (ends : kind.IsWord → EndsRun isWordChar more)
    : tokensFrom offset (kind.source.toList ++ more)
      = (tokensFrom (offset + byteLength kind.source.toList) more).map
          ({ kind, offset } :: ·) := by
  have front : (Lexeme.token kind).EndsBefore more := ⟨sound, ends⟩
  have read := tokensFrom_append offset front
  rwa [tokensAmong_token] at read

theorem tokensFrom_writeBefore {ending : List Char} (blank : ∀ c ∈ ending, isBlank c = true)
    {pieces : List Piece} (apart : pieces.IsChain Piece.Apart) (offset : Nat)
    : tokensFrom offset (writeBefore ending pieces) = .ok (tokensOfPieces offset pieces) := by
  induction pieces generalizing offset with
  | nil =>
      have read := tokensFrom_gap offset blank endsRun_nil
      rwa [List.append_nil, tokensFrom_nil] at read
  | cons piece rest ih =>
      obtain ⟨first, more, hc, front⟩ := piece.sound.exists_cons
      have ends : EndsRun isBlank (piece.kind.source.toList ++ writeBefore ending rest) := by
        rw [hc]
        exact endsRun_cons.mpr front
      rw [writeBefore, tokensFrom_gap offset piece.blank ends,
        tokensFrom_token _ piece.sound (endsRun_writeBefore blank apart), ih apart.of_cons]
      rfl

-----------------------------------------------------------------------------------------
-- Every text that is read has a layout
-----------------------------------------------------------------------------------------

namespace Layout

/-- More white space may stand in front of a layout. -/
theorem exists_behind_gap (layout : Layout) {gap : List Char}
    (blank : ∀ c ∈ gap, isBlank c = true)
    : ∃ wider : Layout,
        wider.text = gap ++ layout.text
        ∧ ∀ offset, wider.tokensFrom offset = layout.tokensFrom (offset + byteLength gap) := by
  obtain ⟨pieces, ending, ending_blank, apart⟩ := layout
  cases pieces with
  | nil =>
      have all : ∀ c ∈ gap ++ ending, isBlank c = true :=
        List.forall_mem_append.mpr ⟨blank, ending_blank⟩
      exact ⟨⟨[], gap ++ ending, all, .nil⟩, rfl, fun _ => rfl⟩
  | cons piece rest =>
      have all : ∀ c ∈ gap ++ piece.gap, isBlank c = true :=
        List.forall_mem_append.mpr ⟨blank, piece.blank⟩
      have wider_apart
          : (⟨gap ++ piece.gap, piece.kind, all, piece.sound⟩ :: rest).IsChain Piece.Apart := by
        cases rest with
        | nil => exact .singleton _
        | cons next rest =>
            obtain ⟨head, tail⟩ := List.isChain_cons_cons.mp apart
            exact .cons_cons head tail
      refine ⟨⟨_, ending, ending_blank, wider_apart⟩, ?_, fun offset => ?_⟩
      · simp [text, writeBefore]
      · simp [tokensFrom, tokensOfPieces, byteLength_append, Nat.add_assoc]

/-- A token may stand in front of a layout, when it is no word that the text goes on with. -/
theorem exists_behind_token (layout : Layout) {kind : TokenKind} (sound : kind.Sound)
    (ends : kind.IsWord → EndsRun isWordChar layout.text)
    : ∃ longer : Layout,
        longer.text = kind.source.toList ++ layout.text
        ∧ ∀ offset,
            longer.tokensFrom offset
              = { kind, offset }
                :: layout.tokensFrom (offset + byteLength kind.source.toList) := by
  obtain ⟨pieces, ending, blank, apart⟩ := layout
  have longer_apart
      : (⟨[], kind, List.forall_mem_nil _, sound⟩ :: pieces).IsChain Piece.Apart := by
    cases pieces with
    | nil => exact .singleton _
    | cons next rest =>
        -- A word that followed without a gap would have been read as part of this one.
        refine .cons_cons (fun word next_word gap => ?_) apart
        obtain ⟨first, more, hc, -⟩ := next.sound.exists_cons
        have front : isWordChar first = false := by
          have run := ends word
          rw [text, writeBefore, gap, hc] at run
          exact endsRun_cons.mp run
        have inside : isWordChar first = true := next.sound.isWordChar_of_isWord next_word hc
        exact absurd front (by simp [inside])
  exact ⟨⟨_, ending, blank, longer_apart⟩, rfl, fun _ => rfl⟩

/-- A text whose tokens can be read has a layout. -/
theorem exists_of_tokensFrom {text : List Char} {offset : Nat} {found : List Token}
    (read : Query.tokensFrom offset text = .ok found)
    : ∃ layout : Layout, layout.text = text ∧ layout.tokensFrom offset = found := by
  induction text using lexemeStep.induction generalizing offset found with
  | nil =>
      rw [tokensFrom_nil] at read
      exact ⟨empty, rfl, Except.ok.inj read⟩
  | cons first rest ih =>
      obtain ⟨front, ends⟩ := readLexeme_spec first rest
      -- What is left behind the first lexeme has a layout, and the lexeme goes in front of it.
      rw [show lexemeStep.read first rest = readLexeme first rest from rfl] at ih
      generalize readLexeme first rest = left at front ends ih
      obtain ⟨lexeme, more⟩ := left
      rw [front] at read ⊢
      cases lexeme with
      | gap gap =>
          obtain ⟨-, blank, run_ends⟩ := ends
          obtain ⟨layout, rfl, rfl⟩ := ih ((tokensFrom_gap offset blank run_ends).symm.trans read)
          obtain ⟨wider, wider_text, wider_tokens⟩ := layout.exists_behind_gap blank
          exact ⟨wider, wider_text, wider_tokens offset⟩
      | token kind =>
          obtain ⟨sound, run_ends⟩ := ends
          rw [Lexeme.source, tokensFrom_token offset sound run_ends] at read
          cases behind : Query.tokensFrom (offset + byteLength kind.source.toList) more with
          | error e =>
              rw [behind] at read
              contradiction
          | ok tail =>
              rw [behind] at read
              obtain rfl := Except.ok.inj read
              obtain ⟨layout, rfl, rfl⟩ := ih behind
              obtain ⟨longer, longer_text, longer_tokens⟩ :=
                layout.exists_behind_token sound run_ends
              exact ⟨longer, longer_text, longer_tokens offset⟩
      | unclosed tail =>
          rw [tokensFrom_append offset ends, tokensAmong_unclosed] at read
          contradiction

end Layout

theorem Layout.tokensFrom_text (layout : Layout) (offset : Nat)
    : Query.tokensFrom offset layout.text = .ok (layout.tokensFrom offset) :=
  tokensFrom_writeBefore layout.blank layout.apart offset

/-- The tokens of a text are those of its layouts. -/
theorem tokensFrom_eq_ok_iff {text : List Char} {offset : Nat} {found : List Token}
    : tokensFrom offset text = .ok found
      ↔ ∃ layout : Layout, layout.text = text ∧ layout.tokensFrom offset = found := by
  constructor
  · exact Layout.exists_of_tokensFrom
  · rintro ⟨layout, rfl, rfl⟩
    exact layout.tokensFrom_text offset

/-- Layouts of one text have the same tokens. -/
theorem Layout.kinds_eq_of_text_eq {layout other : Layout} (same : layout.text = other.text)
    : layout.kinds = other.kinds := by
  have read := layout.tokensFrom_text 0
  rw [same, other.tokensFrom_text 0] at read
  rw [← layout.map_kind_tokensFrom 0, ← other.map_kind_tokensFrom 0, Except.ok.inj read]

end Logbook.Query
