import Logbook.Proofs.Query.Layout

/-! The tokens of a query text tile it.
The text is white space and sources of tokens in turn, with nothing between them, and each token
begins behind as many bytes as there are in front of it.
-/

namespace Logbook

open Text Text.Utf8

theorem Text.Utf8.byteLength_cons (c : Char) (text : List Char)
    : byteLength (c :: text) = c.utf8Size + byteLength text := by
  rw [byteLength, List.foldl_cons, foldl_utf8Size, Nat.zero_add]

/-- The size of a string is the sum of the sizes of its characters. -/
theorem Text.Utf8.utf8ByteSize_ofList (text : List Char)
    : (String.ofList text).utf8ByteSize = byteLength text := by
  induction text with
  | nil => rfl
  | cons c text ih =>
      rw [String.ofList_cons, String.utf8ByteSize_append, String.utf8ByteSize_singleton, ih,
        byteLength_cons]

namespace Query

/-- The source of the token stands in the text behind as many bytes as its offset says. -/
def Token.StandsIn (token : Token) (text : String) : Prop :=
  ∃ front behind : String,
    text = front ++ token.kind.source ++ behind ∧ front.utf8ByteSize = token.offset

-----------------------------------------------------------------------------------------
-- Where the tokens of pieces begin
-----------------------------------------------------------------------------------------

theorem TokenKind.Sound.byteLength_pos {kind : TokenKind} (h : kind.Sound)
    : 0 < byteLength kind.source.toList := by
  obtain ⟨first, rest, source, -⟩ := h.exists_cons
  have size := first.utf8Size_pos
  rw [source, byteLength_cons]
  omega

/-- Each token begins behind the pieces before it and the white space of its own, by induction on
the pieces.
-/
theorem tokensOfPieces_eq_mapIdx (offset : Nat) (pieces : List Piece)
    : tokensOfPieces offset pieces
      = pieces.mapIdx fun place piece =>
          {
            kind := piece.kind,
            offset := offset + byteLength (writeBefore piece.gap (pieces.take place)),
          } := by
  induction pieces generalizing offset with
  | nil => rfl
  | cons piece rest ih =>
      rw [tokensOfPieces, ih, List.mapIdx_cons]
      simp [writeBefore, byteLength_append, Nat.add_assoc]

theorem le_offset_of_mem_tokensOfPieces {token : Token} {offset : Nat} {pieces : List Piece}
    (member : token ∈ tokensOfPieces offset pieces)
    : offset ≤ token.offset := by
  rw [tokensOfPieces_eq_mapIdx] at member
  obtain ⟨place, _, rfl⟩ := List.mem_mapIdx.mp member
  exact Nat.le_add_right _ _

/-- No token is empty, so each begins before the next one, by induction on the pieces. -/
theorem offsets_ascend (offset : Nat) (pieces : List Piece)
    : (tokensOfPieces offset pieces).Pairwise fun token next => token.offset < next.offset := by
  induction pieces generalizing offset with
  | nil => exact .nil
  | cons piece rest ih =>
      refine List.pairwise_cons.mpr ⟨fun token member => ?_, ih _⟩
      have behind := le_offset_of_mem_tokensOfPieces member
      have size := piece.sound.byteLength_pos
      simp only
      omega

/-- Every token of the pieces is cut out of their text at its offset, by induction on the pieces. -/
theorem exists_cut_of_mem_tokensOfPieces {token : Token} {offset : Nat} {pieces : List Piece}
    (ending : List Char) (member : token ∈ tokensOfPieces offset pieces)
    : ∃ front behind,
        writeBefore ending pieces = front ++ (token.kind.source.toList ++ behind)
        ∧ offset + byteLength front = token.offset := by
  induction pieces generalizing offset with
  | nil => cases member
  | cons piece rest ih =>
      rcases List.mem_cons.mp member with rfl | later
      · exact ⟨piece.gap, writeBefore ending rest, rfl, rfl⟩
      · obtain ⟨front, behind, cut, size⟩ := ih later
        refine ⟨piece.gap ++ (piece.kind.source.toList ++ front), behind, ?_, ?_⟩
        · rw [writeBefore, cut]
          simp only [List.append_assoc]
        · rw [byteLength_append, byteLength_append, ← size]
          omega

-----------------------------------------------------------------------------------------
-- The tokens of a text
-----------------------------------------------------------------------------------------

/-- The tokens of a layout, each at the byte length of all that the layout puts in front of it. -/
def Layout.tiles (layout : Layout) : List Token :=
  layout.pieces.mapIdx fun place piece =>
    {
      kind := piece.kind,
      offset := byteLength (writeBefore piece.gap (layout.pieces.take place)),
    }

theorem Layout.tokensFrom_zero (layout : Layout) : layout.tokensFrom 0 = layout.tiles := by
  simp only [tokensFrom, tiles, tokensOfPieces_eq_mapIdx, Nat.zero_add]

theorem tokens_eq_ok_iff_exists_layout {text : String} {found : List Token}
    : tokens text = .ok found
      ↔ ∃ layout : Layout, layout.text = text.toList ∧ layout.tokensFrom 0 = found := by
  rw [tokens_eq_tokensFrom, tokensFrom_eq_ok_iff]

/-- The tokens that are read from a text stand in it. -/
theorem standsIn_of_mem_tokens {text : String} {found : List Token} {token : Token}
    (read : tokens text = .ok found) (member : token ∈ found)
    : token.StandsIn text := by
  obtain ⟨layout, spelled, rfl⟩ := tokens_eq_ok_iff_exists_layout.mp read
  obtain ⟨front, behind, cut, size⟩ := exists_cut_of_mem_tokensOfPieces layout.ending member
  have whole : text.toList = front ++ (token.kind.source.toList ++ behind) :=
    spelled.symm.trans cut
  refine ⟨String.ofList front, String.ofList behind, String.toList_inj.mp ?_, ?_⟩
  · simp only [String.toList_append, String.toList_ofList, whole, List.append_assoc]
  · rw [utf8ByteSize_ofList, ← size, Nat.zero_add]

/-- Tokens are read from a text exactly when some layout of the text has them as its tiles. They
then stand one behind the other in the text.
-/
theorem tokens_eq_ok_iff_tiled (text : String) (found : List Token)
    : (tokens text = .ok found
        ↔ ∃ layout : Layout, layout.text = text.toList ∧ layout.tiles = found)
      ∧ (tokens text = .ok found
        → (found.Pairwise fun token next => token.offset < next.offset)
          ∧ ∀ token ∈ found, token.StandsIn text) := by
  constructor
  · simp only [tokens_eq_ok_iff_exists_layout, Layout.tokensFrom_zero]
  · intro read
    refine ⟨?_, fun token member => standsIn_of_mem_tokens read member⟩
    obtain ⟨layout, -, rfl⟩ := tokens_eq_ok_iff_exists_layout.mp read
    exact offsets_ascend 0 layout.pieces

/-- Words of two bytes a character, a literal that holds white space and an equals sign between two
words it touches, and a gap of a single wide space.
-/
theorem tokens_eq_ok_iff_tiled_close
    : let text := "пользователь=\"a = b\"and\u3000date "
      let found : List Token :=
        [
          { kind := .word "пользователь", offset := 0 },
          { kind := .equals, offset := 24 },
          { kind := .quoted "a = b", offset := 25 },
          { kind := .word "and", offset := 32 },
          { kind := .word "date", offset := 38 }
        ]
      tokens text = .ok found
      ∧ (∃ layout : Layout, layout.text = text.toList ∧ layout.tiles = found)
      ∧ Token.StandsIn { kind := .word "date", offset := 38 } text := by
  intro text found
  have read : tokens text = .ok found := by decide +kernel
  obtain ⟨tiled, standing⟩ := tokens_eq_ok_iff_tiled text found
  exact ⟨read, tiled.mp read, (standing read).2 _ (by simp [found])⟩

end Query

end Logbook
