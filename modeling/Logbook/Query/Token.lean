import Logbook.Query.Error
import Logbook.Text.Blank
import Logbook.Text.Reading
import Logbook.Text.Utf8

/-! Tokens of query texts.
The text is first cut into lexemes, white space among them, so that nothing of it is lost; the
tokens are the lexemes that are no white space, each with its place in the text.
-/

namespace Logbook.Query

open Text Text.Utf8

/-- What a token is. -/
inductive TokenKind where
  | word (text : String)
  | equals
  | quoted (text : String)
deriving DecidableEq, Repr

/-- A token and the byte offset at which it begins. -/
structure Token where
  kind : TokenKind
  offset : Nat
deriving DecidableEq, Repr

/-- The text of a token as it stands in a query. -/
def TokenKind.source : TokenKind → String
  | word text => text
  | equals => "="
  | quoted text => "\"" ++ text ++ "\""

/-- A stretch of a query text: white space, a token, or a literal whose closing quote is missing. -/
inductive Lexeme where
  | gap (text : List Char)
  | token (kind : TokenKind)
  | unclosed (text : List Char)
deriving DecidableEq

/-- The stretch of text that a lexeme is. -/
def Lexeme.source : Lexeme → List Char
  | gap text => text
  | token kind => kind.source.toList
  | unclosed text => '"' :: text

/-- A word goes on until white space, an equals sign or a quote. -/
def isWordChar (c : Char) : Bool := !isBlank c && c != '=' && c != '"'

/-- Reads the lexeme that begins with the given character. -/
def readLexeme (first : Char) (rest : List Char) : Lexeme × List Char :=
  if isBlank first then
    (.gap (first :: rest.takeWhile isBlank), rest.dropWhile isBlank)
  else if first = '=' then
    (.token .equals, rest)
  else if first = '"' then
    match rest.dropWhile (· != '"') with
    | [] => (.unclosed rest, [])
    | _ :: more => (.token (.quoted (String.ofList (rest.takeWhile (· != '"')))), more)
  else
    (
      .token (.word (String.ofList (first :: rest.takeWhile isWordChar))),
      rest.dropWhile isWordChar
    )

theorem readLexeme_rest_length (first : Char) (rest : List Char)
    : (readLexeme first rest).2.length ≤ rest.length := by
  have shorter (p : Char → Bool) : (rest.dropWhile p).length ≤ rest.length :=
    (List.dropWhile_sublist p).length_le
  unfold readLexeme
  split
  · exact shorter isBlank
  · split
    · exact Nat.le_refl _
    · split
      · split
        · exact Nat.zero_le _
        · next more found =>
            have := shorter (· != '"')
            rw [found] at this
            exact Nat.le_of_succ_le this
      · exact shorter isWordChar

/-- One lexeme off the front of a query text. -/
def lexemeStep : Step Char Lexeme :=
  {
    read := readLexeme,
    shortens := readLexeme_rest_length,
  }

/-- The lexemes of a query text. -/
def lexemes (text : List Char) : List Lexeme := lexemeStep.readAll text

/-- The lexemes of a query text with the byte offsets at which they begin. -/
def placedLexemes (text : List Char) : List (Lexeme × Nat) :=
  let found := lexemes text
  found.zip (found.scanl (fun offset lexeme => offset + byteLength lexeme.source) 0)

/-- The offset of a literal whose closing quote is missing. -/
def unclosedOffset? (placed : Lexeme × Nat) : Option Nat :=
  match placed.1 with
  | .unclosed _ => some placed.2
  | _ => none

/-- The token that a lexeme is, unless it is white space. -/
def tokenAt? (placed : Lexeme × Nat) : Option Token :=
  match placed.1 with
  | .token kind => some { kind, offset := placed.2 }
  | _ => none

/-- The tokens of a query text, which has none when a quote in it is never closed. -/
def tokens (text : String) : Except Error (List Token) :=
  let placed := placedLexemes text.toList
  match placed.findSome? unclosedOffset? with
  | some offset => .error (.unclosedLiteral offset)
  | none => .ok (placed.filterMap tokenAt?)

end Logbook.Query
