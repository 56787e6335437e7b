import Logbook.Proofs.Text.Runs
import Logbook.Query.Token
import Mathlib.Data.List.TakeWhile

/-! Reading tokens from the front of a text, from any offset on.
White space moves the offset only, and every other reading step yields one token or fails for good.
-/

namespace Logbook

open Text Text.Utf8

namespace Text.Utf8

@[simp]
theorem byteLength_nil : byteLength [] = 0 := rfl

theorem foldl_utf8Size (text : List Char) (start : Nat)
    : text.foldl (fun size c => size + c.utf8Size) start = start + byteLength text := by
  rw [byteLength]
  induction text generalizing start with
  | nil => rfl
  | cons c rest ih =>
      rw [List.foldl_cons, List.foldl_cons, ih, ih (0 + c.utf8Size)]
      omega

theorem byteLength_append (left right : List Char)
    : byteLength (left ++ right) = byteLength left + byteLength right := by
  rw [byteLength, List.foldl_append, foldl_utf8Size]
  rfl

end Text.Utf8

-----------------------------------------------------------------------------------------
-- The tokens among lexemes that have been placed
-----------------------------------------------------------------------------------------

namespace Query

/-- The lexemes with the offsets at which they begin, counted from the given one. -/
def placeFrom (offset : Nat) (found : List Lexeme) : List (Lexeme × Nat) :=
  found.zip (found.scanl (fun offset lexeme => offset + byteLength lexeme.source) offset)

@[simp]
theorem placeFrom_nil (offset : Nat) : placeFrom offset [] = [] := rfl

@[simp]
theorem placeFrom_cons (offset : Nat) (lexeme : Lexeme) (rest : List Lexeme)
    : placeFrom offset (lexeme :: rest)
      = (lexeme, offset) :: placeFrom (offset + byteLength lexeme.source) rest := by
  simp [placeFrom, List.scanl_cons]

/-- The tokens among lexemes that are all complete. -/
def tokensAmong (placed : List (Lexeme × Nat)) : Except Error (List Token) :=
  match placed.findSome? unclosedOffset? with
  | some offset => .error (.unclosedLiteral offset)
  | none => .ok (placed.filterMap tokenAt?)

theorem tokensAmong_gap (gap : List Char) (offset : Nat) (placed : List (Lexeme × Nat))
    : tokensAmong ((.gap gap, offset) :: placed) = tokensAmong placed := rfl

theorem tokensAmong_token (kind : TokenKind) (offset : Nat) (placed : List (Lexeme × Nat))
    : tokensAmong ((.token kind, offset) :: placed)
      = (tokensAmong placed).map ({ kind, offset } :: ·) := by
  have found : ((Lexeme.token kind, offset) :: placed).findSome? unclosedOffset?
      = placed.findSome? unclosedOffset? := rfl
  rw [tokensAmong, tokensAmong, found]
  cases placed.findSome? unclosedOffset? <;> rfl

theorem tokensAmong_unclosed (text : List Char) (offset : Nat) (placed : List (Lexeme × Nat))
    : tokensAmong ((.unclosed text, offset) :: placed) = .error (.unclosedLiteral offset) := rfl

/-- The tokens of a text that begins at the given offset. -/
def tokensFrom (offset : Nat) (text : List Char) : Except Error (List Token) :=
  tokensAmong (placeFrom offset (lexemes text))

theorem tokens_eq_tokensFrom (text : String) : tokens text = tokensFrom 0 text.toList := rfl

@[simp]
theorem tokensFrom_nil (offset : Nat) : tokensFrom offset [] = .ok [] := by
  rw [tokensFrom, lexemes, lexemeStep.readAll_nil]
  rfl

-----------------------------------------------------------------------------------------
-- One lexeme off the front of a text
-----------------------------------------------------------------------------------------

/-- A word is not empty and holds word characters only, and a literal holds no quote. -/
def TokenKind.Sound : TokenKind → Prop
  | word text => text.toList ≠ [] ∧ ∀ c ∈ text.toList, isWordChar c = true
  | equals => True
  | quoted text => '"' ∉ text.toList

/-- The token is a word. -/
def TokenKind.IsWord : TokenKind → Prop
  | word _ => True
  | _ => False

/-- The lexeme is all that is taken off the front when these characters come behind it. -/
def Lexeme.EndsBefore (more : List Char) : Lexeme → Prop
  | gap text => text ≠ [] ∧ (∀ c ∈ text, isBlank c = true) ∧ EndsRun isBlank more
  | token kind => kind.Sound ∧ (kind.IsWord → EndsRun isWordChar more)
  | unclosed text => '"' ∉ text ∧ more = []

@[simp]
theorem source_quoted (text : String)
    : (TokenKind.quoted text).source.toList = '"' :: (text.toList ++ ['"']) := by
  simp [TokenKind.source]

theorem isWordChar_eq_true {c : Char}
    : isWordChar c = true ↔ isBlank c = false ∧ c ≠ '=' ∧ c ≠ '"' := by
  simp [isWordChar, and_assoc]

theorem TokenKind.Sound.exists_cons {kind : TokenKind} (h : kind.Sound)
    : ∃ first rest, kind.source.toList = first :: rest ∧ isBlank first = false := by
  cases kind with
  | word text =>
      obtain ⟨nonempty, all⟩ := h
      obtain ⟨first, rest, hc⟩ := List.exists_cons_of_ne_nil nonempty
      rw [hc] at all
      exact ⟨first, rest, hc, (isWordChar_eq_true.mp (all first List.mem_cons_self)).1⟩
  | equals => exact ⟨'=', [], rfl, by decide⟩
  | quoted text => exact ⟨'"', _, source_quoted text, by decide⟩

theorem Lexeme.EndsBefore.source_ne_nil {lexeme : Lexeme} {more : List Char}
    (h : lexeme.EndsBefore more)
    : lexeme.source ≠ [] := by
  cases lexeme with
  | gap text => exact h.1
  | token kind =>
      obtain ⟨first, rest, hc, -⟩ := h.1.exists_cons
      simp [Lexeme.source, hc]
  | unclosed text => exact List.cons_ne_nil _ _

theorem readLexeme_gap {first : Char} {gap more : List Char}
    (blank : ∀ c ∈ first :: gap, isBlank c = true) (ends : EndsRun isBlank more)
    : readLexeme first (gap ++ more) = (.gap (first :: gap), more) := by
  have rest : ∀ c ∈ gap, isBlank c = true := fun c hc => blank c (List.mem_cons_of_mem first hc)
  rw [readLexeme, if_pos (blank first List.mem_cons_self), takeWhile_run rest ends,
    dropWhile_run rest ends]

theorem readLexeme_equals (more : List Char) : readLexeme '=' more = (.token .equals, more) := rfl

theorem readLexeme_quote (rest : List Char)
    : readLexeme '"' rest
      = match rest.dropWhile (· != '"') with
        | [] => (.unclosed rest, [])
        | _ :: more => (.token (.quoted (String.ofList (rest.takeWhile (· != '"')))), more) :=
  rfl

theorem readLexeme_quoted {text : List Char} (more : List Char) (closed : '"' ∉ text)
    : readLexeme '"' (text ++ '"' :: more) = (.token (.quoted (String.ofList text)), more) := by
  have all : ∀ c ∈ text, (c != '"') = true := by
    intro c hc
    simpa using ne_of_mem_of_not_mem hc closed
  have ends : EndsRun (· != '"') ('"' :: more) := by simp
  simp only [readLexeme_quote, dropWhile_run all ends, takeWhile_run all ends]

theorem readLexeme_unclosed {text : List Char} (closed : '"' ∉ text)
    : readLexeme '"' text = (.unclosed text, []) := by
  have none_left : text.dropWhile (· != '"') = [] := by
    rw [List.dropWhile_eq_nil_iff]
    intro c hc
    simpa using ne_of_mem_of_not_mem hc closed
  simp only [readLexeme_quote, none_left]

theorem readLexeme_word {first : Char} {rest more : List Char}
    (all : ∀ c ∈ first :: rest, isWordChar c = true) (ends : EndsRun isWordChar more)
    : readLexeme first (rest ++ more)
      = (.token (.word (String.ofList (first :: rest))), more) := by
  obtain ⟨hb, he, hq⟩ := isWordChar_eq_true.mp (all first List.mem_cons_self)
  have rest_all : ∀ c ∈ rest, isWordChar c = true :=
    fun c hc => all c (List.mem_cons_of_mem first hc)
  rw [readLexeme, if_neg (by simp [hb]), if_neg he, if_neg hq, takeWhile_run rest_all ends,
    dropWhile_run rest_all ends]

/-- Reading drops nothing, and stops only where the lexeme cannot go on. -/
theorem readLexeme_spec (first : Char) (rest : List Char)
    : first :: rest = (readLexeme first rest).1.source ++ (readLexeme first rest).2
      ∧ (readLexeme first rest).1.EndsBefore (readLexeme first rest).2 := by
  -- The cases are those of the first character, in the order in which the reader asks.
  by_cases blank : isBlank first = true
  · have run := List.takeWhile_append_dropWhile (p := isBlank) (l := rest)
    have all : ∀ c ∈ first :: rest.takeWhile isBlank, isBlank c = true := by
      simpa [blank] using fun c hc => List.mem_takeWhile_imp hc
    rw [← run, readLexeme_gap all (endsRun_dropWhile rest)]
    exact ⟨rfl, List.cons_ne_nil _ _, all, endsRun_dropWhile rest⟩
  by_cases equals : first = '='
  · subst equals
    exact ⟨rfl, trivial, nofun⟩
  by_cases quote : first = '"'
  · subst quote
    by_cases closed : '"' ∈ rest
    · obtain ⟨text, more, rfl, ht⟩ := List.eq_append_cons_of_mem closed
      rw [readLexeme_quoted more ht]
      exact ⟨by simp [Lexeme.source], by simpa [TokenKind.Sound] using ht, nofun⟩
    · rw [readLexeme_unclosed closed]
      exact ⟨by simp [Lexeme.source], closed, rfl⟩
  · have run := List.takeWhile_append_dropWhile (p := isWordChar) (l := rest)
    have front : isWordChar first = true := by simp [isWordChar_eq_true, blank, equals, quote]
    have all : ∀ c ∈ first :: rest.takeWhile isWordChar, isWordChar c = true := by
      simpa [front] using fun c hc => List.mem_takeWhile_imp hc
    rw [← run, readLexeme_word all (endsRun_dropWhile rest)]
    refine ⟨by simp [Lexeme.source, TokenKind.source], ⟨by simp, by simpa using all⟩, ?_⟩
    exact fun _ => endsRun_dropWhile rest

/-- A lexeme that cannot go on is read off the front. -/
theorem readLexeme_eq {first : Char} {rest more : List Char} {lexeme : Lexeme}
    (ends : lexeme.EndsBefore more) (text : first :: rest = lexeme.source ++ more)
    : readLexeme first rest = (lexeme, more) := by
  cases lexeme with
  | gap gap =>
      obtain ⟨nonempty, blank, ends⟩ := ends
      cases gap with
      | nil => contradiction
      | cons c gap =>
          obtain ⟨rfl, rfl⟩ := List.cons.inj text
          exact readLexeme_gap blank ends
  | token kind =>
      obtain ⟨sound, ends⟩ := ends
      cases kind with
      | word word =>
          obtain ⟨nonempty, all⟩ := sound
          obtain ⟨c, cs, hc⟩ := List.exists_cons_of_ne_nil nonempty
          have spelled : word = String.ofList (c :: cs) := by rw [← hc, String.ofList_toList]
          rw [Lexeme.source, TokenKind.source, hc] at text
          obtain ⟨rfl, rfl⟩ := List.cons.inj text
          rw [hc] at all
          rw [spelled]
          exact readLexeme_word all (ends trivial)
      | equals =>
          obtain ⟨rfl, rfl⟩ := List.cons.inj text
          exact readLexeme_equals _
      | quoted literal =>
          rw [Lexeme.source, source_quoted, List.cons_append, List.append_assoc] at text
          obtain ⟨rfl, rfl⟩ := List.cons.inj text
          have read := readLexeme_quoted more sound
          rwa [String.ofList_toList] at read
  | unclosed tail =>
      obtain ⟨closed, rfl⟩ := ends
      rw [List.append_nil] at text
      obtain ⟨rfl, rfl⟩ := List.cons.inj text
      exact readLexeme_unclosed closed

/-- Reading goes on behind the lexeme at the front of the text. -/
theorem tokensFrom_append {lexeme : Lexeme} {more : List Char} (offset : Nat)
    (ends : lexeme.EndsBefore more)
    : tokensFrom offset (lexeme.source ++ more)
      = tokensAmong
          ((lexeme, offset) :: placeFrom (offset + byteLength lexeme.source) (lexemes more)) := by
  obtain ⟨first, rest, hc⟩ := List.exists_cons_of_ne_nil
    (List.append_ne_nil_of_left_ne_nil ends.source_ne_nil more)
  rw [hc, tokensFrom, lexemes, lexemeStep.readAll_cons]
  have read : lexemeStep.read first rest = (lexeme, more) := readLexeme_eq ends hc.symm
  rw [read, placeFrom_cons]
  rfl

end Query

end Logbook
