import Logbook.Text.Reading

/-! Tokens of TOML documents.
White space and line ends are tokens too, because they decide where keys, numbers and statements
end. A stretch that can be part of no document is a token of its own.
-/

namespace Logbook.Toml

open Text

/-- A stretch of a document. -/
inductive Token where
  | blank (text : List Char)
  | newline
  | comment
  | mark (c : Char)
  | string (text : String) (multiline : Bool)
  | atom (text : List Char)
  | malformed
deriving DecidableEq

/-- White space inside a line. -/
def isBlankChar (c : Char) : Bool := c == ' ' || c == '\t'

/-- The characters that are tokens by themselves. -/
def isMark (c : Char) : Bool :=
  c == '[' || c == ']' || c == '\x7b' || c == '\x7d' || c == ',' || c == '=' || c == '.'

/-- The characters of keys without quotes, of numbers, and of the other words. -/
def isAtomChar (c : Char) : Bool :=
  !isBlankChar c && !isMark c && c != '\n' && c != '\r' && c != '#' && c != '"' && c != '\''

/-- The control characters that no line of a document holds. -/
def isControl (c : Char) : Bool := (c.toNat < 0x20 && c != '\t') || c.toNat == 0x7F

/-- The value of a hexadecimal digit. -/
def hexValue? (c : Char) : Option Nat :=
  if '0' ≤ c ∧ c ≤ '9' then
    some (c.toNat - '0'.toNat)
  else if 'a' ≤ c ∧ c ≤ 'f' then
    some (c.toNat - 'a'.toNat + 10)
  else if 'A' ≤ c ∧ c ≤ 'F' then
    some (c.toNat - 'A'.toNat + 10)
  else
    none

/-- The number that hexadecimal digits denote. -/
def hexNumber? (digits : List Char) : Option Nat :=
  digits.foldlM (fun n c => (hexValue? c).map (n * 16 + ·)) 0

/-- Reads the character that `count` hexadecimal digits name. -/
def readCodePoint (count : Nat) (rest : List Char) : Option (List Char) × List Char :=
  let digits := rest.take count
  match hexNumber? digits with
  | some code =>
      if digits.length = count ∧ code.isValidChar then
        (some [Char.ofNat code], rest.drop count)
      else
        (none, rest)
  | none => (none, rest)

/-- Reads what stands behind a backslash. In a string over several lines a backslash at the end of
a line takes the white space up to the next text away.
-/
def readEscape (multiline : Bool) (rest : List Char) : Option (List Char) × List Char :=
  match rest with
  | 'b' :: more => (some [Char.ofNat 0x08], more)
  | 't' :: more => (some ['\t'], more)
  | 'n' :: more => (some ['\n'], more)
  | 'f' :: more => (some [Char.ofNat 0x0C], more)
  | 'r' :: more => (some ['\r'], more)
  | 'e' :: more => (some [Char.ofNat 0x1B], more)
  | '"' :: more => (some ['"'], more)
  | '\\' :: more => (some ['\\'], more)
  | 'x' :: more => readCodePoint 2 more
  | 'u' :: more => readCodePoint 4 more
  | 'U' :: more => readCodePoint 8 more
  | _ =>
      let lineEnd := rest.dropWhile isBlankChar
      if multiline && (lineEnd.head? == some '\n' || lineEnd.head? == some '\r') then
        (some [], lineEnd.dropWhile fun c => isBlankChar c || c == '\n' || c == '\r')
      else
        (none, rest)

/-- A character that stands for itself inside a string. -/
def isPlain (multiline : Bool) (c : Char) : Bool :=
  !isControl c || (multiline && (c == '\n' || c == '\r'))

theorem readCodePoint_rest_length (count : Nat) (rest : List Char)
    : (readCodePoint count rest).2.length ≤ rest.length := by
  unfold readCodePoint
  dsimp only
  split
  · split <;> simp
  · exact Nat.le_refl _

theorem readEscape_rest_length (multiline : Bool) (rest : List Char)
    : (readEscape multiline rest).2.length ≤ rest.length := by
  have shorter (p : Char → Bool) (s : List Char) : (s.dropWhile p).length ≤ s.length :=
    (List.dropWhile_sublist p).length_le
  unfold readEscape
  split <;> try exact Nat.le_succ _
  · exact Nat.le_succ_of_le (readCodePoint_rest_length 2 _)
  · exact Nat.le_succ_of_le (readCodePoint_rest_length 4 _)
  · exact Nat.le_succ_of_le (readCodePoint_rest_length 8 _)
  · dsimp only
    split
    · exact Nat.le_trans (shorter _ _) (shorter _ _)
    · exact Nat.le_refl _

/-- One character or escape off the front of the inside of a basic string. -/
def escapeStep (multiline : Bool) : Step Char (Option (List Char)) :=
  {
    read := fun c rest =>
      if c = '\\' then
        readEscape multiline rest
      else
        (if isPlain multiline c then some [c] else none, rest),
    shortens := fun c rest => by
      split
      · exact readEscape_rest_length multiline rest
      · exact Nat.le_refl _,
  }

/-- Every carriage return is followed by a newline. -/
def returnsEndLines (text : List Char) : Bool :=
  (text.zip (text.drop 1 ++ [' '])).all fun (c, next) => c != '\r' || next == '\n'

/-- The text without a line end at its front. -/
def dropFirstNewline (text : List Char) : List Char :=
  match text with
  | '\n' :: rest => rest
  | '\r' :: '\n' :: rest => rest
  | _ => text

/-- The string token of what stands inside the delimiters of a basic string. -/
def basicString (multiline : Bool) (inside : List Char) : Token :=
  if multiline && !returnsEndLines inside then
    .malformed
  else
    let inside := if multiline then dropFirstNewline inside else inside
    match ((escapeStep multiline).readAll inside).mapM id with
    | some pieces => .string (String.ofList pieces.flatten) multiline
    | none => .malformed

/-- The string token of what stands inside the delimiters of a literal string. -/
def literalString (multiline : Bool) (inside : List Char) : Token :=
  if (multiline && !returnsEndLines inside) || !inside.all (isPlain multiline) then
    .malformed
  else
    .string (String.ofList (if multiline then dropFirstNewline inside else inside)) multiline

/-- Cuts a text at its first delimiter that no backslash protects, where `escapes` says whether
backslashes do. The part before the delimiter is collected last first in `done`.
-/
def cutAtDelimiter (delimiter : Char) (escapes : Bool) (done : List Char)
    : List Char → Option (List Char × List Char)
  | [] => none
  | [c] => if c = delimiter then some (done.reverse, []) else none
  | c :: next :: rest =>
      if c = delimiter then
        some (done.reverse, next :: rest)
      else if escapes && c == '\\' then
        cutAtDelimiter delimiter escapes (next :: c :: done) rest
      else
        cutAtDelimiter delimiter escapes (c :: done) (next :: rest)

/-- Cuts a text behind its first three delimiters in a row that no backslash protects. Up to two
more of them belong to the part before.
-/
def cutAtTriple (delimiter : Char) (escapes : Bool) (done : List Char)
    : List Char → Option (List Char × List Char)
  | [] => none
  | c :: rest =>
      if c = delimiter ∧ rest.take 2 = [delimiter, delimiter] then
        let more := ((rest.drop 2).take 2).takeWhile (· == delimiter)
        some (done.reverse ++ more, rest.drop (2 + more.length))
      else if escapes && c == '\\' then
        match rest with
        | [] => none
        | next :: rest => cutAtTriple delimiter escapes (next :: c :: done) rest
      else
        cutAtTriple delimiter escapes (c :: done) rest

/-- Reads the string behind its first delimiter. -/
def readString (delimiter : Char) (escapes : Bool) (rest : List Char) : Token × List Char :=
  let token := if escapes then basicString else literalString
  if rest.take 2 = [delimiter, delimiter] then
    match cutAtTriple delimiter escapes [] (rest.drop 2) with
    | some (inside, more) => (token true inside, more)
    | none => (.malformed, [])
  else
    match cutAtDelimiter delimiter escapes [] rest with
    | some (inside, more) => (token false inside, more)
    | none => (.malformed, [])

theorem cutAtDelimiter_length {delimiter : Char} {escapes : Bool}
    {done text inside more : List Char}
    (h : cutAtDelimiter delimiter escapes done text = some (inside, more))
    : more.length ≤ text.length := by
  fun_induction cutAtDelimiter delimiter escapes done text with
  | case1 => simp at h
  | case2 done =>
      cases h
      exact Nat.zero_le _
  | case3 => simp at h
  | case4 done next rest =>
      cases h
      exact Nat.le_succ _
  | case5 done c next rest _ _ ih => exact Nat.le_succ_of_le (Nat.le_succ_of_le (ih h))
  | case6 done c next rest _ _ ih => exact Nat.le_succ_of_le (ih h)

theorem cutAtTriple_length {delimiter : Char} {escapes : Bool}
    {done text inside more : List Char}
    (h : cutAtTriple delimiter escapes done text = some (inside, more))
    : more.length ≤ text.length := by
  fun_induction cutAtTriple delimiter escapes done text with
  | case1 => simp at h
  | case2 done c rest _ extra =>
      cases h
      simp only [List.length_drop, List.length_cons]
      omega
  | case3 => simp at h
  | case4 done c _ _ next rest ih => exact Nat.le_succ_of_le (Nat.le_succ_of_le (ih h))
  | case5 done c rest _ _ ih => exact Nat.le_succ_of_le (ih h)

theorem readString_rest_length (delimiter : Char) (escapes : Bool) (rest : List Char)
    : (readString delimiter escapes rest).2.length ≤ rest.length := by
  unfold readString
  dsimp only
  split
  · split
    · next found =>
        have := cutAtTriple_length found
        simp only [List.length_drop] at this ⊢
        omega
    · exact Nat.zero_le _
  · split
    · next found => exact cutAtDelimiter_length found
    · exact Nat.zero_le _

/-- Reads the token that begins with the given character. -/
def readToken (first : Char) (rest : List Char) : Token × List Char :=
  if isBlankChar first then
    (.blank (first :: rest.takeWhile isBlankChar), rest.dropWhile isBlankChar)
  else if first = '\n' then
    (.newline, rest)
  else if first = '\r' then
    if rest.head? = some '\n' then (.newline, rest.drop 1) else (.malformed, rest)
  else if first = '#' then
    let inLine := fun c : Char => c != '\n' && c != '\r'
    let token := if (rest.takeWhile inLine).any isControl then .malformed else .comment
    (token, rest.dropWhile inLine)
  else if first = '"' then
    readString '"' true rest
  else if first = '\'' then
    readString '\'' false rest
  else if isMark first then
    (.mark first, rest)
  else
    (.atom (first :: rest.takeWhile isAtomChar), rest.dropWhile isAtomChar)

theorem readToken_rest_length (first : Char) (rest : List Char)
    : (readToken first rest).2.length ≤ rest.length := by
  have shorter (p : Char → Bool) : (rest.dropWhile p).length ≤ rest.length :=
    (List.dropWhile_sublist p).length_le
  unfold readToken
  split
  · exact shorter _
  split
  · exact Nat.le_refl _
  split
  · split <;> simp
  split
  · exact shorter _
  split
  · exact readString_rest_length _ _ _
  split
  · exact readString_rest_length _ _ _
  split
  · exact Nat.le_refl _
  · exact shorter _

/-- One token off the front of a document. -/
def tokenStep : Step Char Token :=
  {
    read := readToken,
    shortens := readToken_rest_length,
  }

/-- The tokens of a document. A byte order mark at its front is passed over. -/
def tokens (document : List Char) : List Token :=
  tokenStep.readAll
    (if document.head? = some (Char.ofNat 0xFEFF) then document.drop 1 else document)

end Logbook.Toml
