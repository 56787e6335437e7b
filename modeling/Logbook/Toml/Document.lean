import Logbook.Toml.Scalar

/-! Reading TOML documents, token by token.
The reader keeps the arrays and inline tables that are open, innermost first, the table that the
last header opened, and what may come next.
-/

namespace Logbook.Toml

/-- How deep arrays and inline tables may stand in each other, and how many parts a key may have. -/
def depthLimit : Nat := 80

/-- An array or inline table that is not closed yet. The items are kept last first; the path is the
key of the member whose value is being read.
-/
inductive Frame where
  | array (items : List Value)
  | table (members : Members) (path : List String)

/-- What a key is read for. -/
inductive KeyUse where
  | member
  | header
  | arrayHeader

/-- What may come next. -/
inductive Mode where
  /-- A statement, or nothing before the end of the line. -/
  | line
  /-- A key for a header, or the second bracket of an array header. -/
  | header
  /-- A part of a key. -/
  | keyPart (use : KeyUse) (path : List String)
  /-- A dot, or what ends the key. -/
  | keyNext (use : KeyUse) (path : List String)
  /-- The second closing bracket of an array header. -/
  | headerEnd (path : List String)
  /-- A value on the same line. -/
  | value
  /-- More of a word that is a value. -/
  | word (text : List Char)
  /-- A time of day behind a date and a space, or what follows the date. -/
  | dateGap (text : List Char)
  /-- A further item of an array, or its closing bracket. -/
  | item
  /-- A further member of an inline table, or its closing brace. -/
  | member
  /-- A comma behind an item or member, or what closes the array or inline table. -/
  | separator
  /-- Nothing but a comment before the end of the line. -/
  | lineEnd

/-- How far a document has been read. -/
structure Reader where
  root : Members := []
  header : List String := []
  path : List String := []
  frames : List Frame := []
  mode : Mode := .line

namespace Reader

/-- Puts a value that has been read into its place. -/
def settle (reader : Reader) (value : Value) : Option Reader :=
  match reader.frames with
  | [] => do
      let root ← reader.root.within reader.header fun members => members.assign reader.path value
      return { reader with root, mode := .lineEnd }
  | .array items :: outer =>
      some { reader with frames := .array (value :: items) :: outer, mode := .separator }
  | .table members path :: outer => do
      let members ← members.assign path value
      return { reader with frames := .table members [] :: outer, mode := .separator }

/-- Opens an array or inline table. -/
def enter (reader : Reader) (frame : Frame) (mode : Mode) : Option Reader :=
  if reader.frames.length < depthLimit then
    some { reader with frames := frame :: reader.frames, mode }
  else
    none

/-- Closes the innermost array or inline table by the given mark. -/
def close (reader : Reader) (mark : Char) : Option Reader :=
  match reader.frames with
  | .array items :: outer =>
      if mark = ']' then
        settle { reader with frames := outer } (.array false items.reverse)
      else
        none
  | .table members _ :: outer =>
      if mark = '\x7d' then
        settle { reader with frames := outer } (.table .inline members)
      else
        none
  | [] => none

/-- Takes a token that begins a value. -/
def beginValue (reader : Reader) (token : Token) : Option Reader :=
  match token with
  | .string text _ => reader.settle (.text text)
  | .atom text => some { reader with mode := .word text }
  | .mark '[' => reader.enter (.array []) .item
  | .mark '\x7b' => reader.enter (.table [] []) .member
  | _ => none

/-- A key without quotes consists of letters, digits, underscores and dashes. -/
def isBareKey (text : List Char) : Bool :=
  text.all fun c => c.isAlphanum || c == '_' || c == '-'

/-- Takes a token that is a part of a key. -/
def takeKeyPart (reader : Reader) (use : KeyUse) (path : List String) (token : Token)
    : Option Reader :=
  let next := fun part : String =>
    if path.length + 1 < depthLimit then
      some { reader with mode := .keyNext use (path ++ [part]) }
    else
      none
  match token with
  | .blank _ => some { reader with mode := .keyPart use path }
  | .atom text => if isBareKey text then next (String.ofList text) else none
  | .string text false => next text
  | _ => none

/-- Takes an equals sign behind the key of a member. -/
def keyIsRead (reader : Reader) (path : List String) : Reader :=
  match reader.frames with
  | .table members _ :: outer =>
      { reader with frames := .table members path :: outer, mode := .value }
  | _ => { reader with path, mode := .value }

/-- Takes a token behind a part of a key. -/
def takeKeyNext (reader : Reader) (use : KeyUse) (path : List String) (token : Token)
    : Option Reader :=
  match token, use with
  | .blank _, _ => some reader
  | .mark '.', _ => some { reader with mode := .keyPart use path }
  | .mark '=', .member => some (reader.keyIsRead path)
  | .mark ']', .header => do
      let root ← reader.root.openTable path
      return { reader with root, header := path, mode := .lineEnd }
  | .mark ']', .arrayHeader => some { reader with mode := .headerEnd path }
  | _, _ => none

/-- Takes a token where no word is being read. -/
def takePlain (reader : Reader) (token : Token) : Option Reader :=
  match reader.mode with
  | .line =>
      match token with
      | .blank _ | .newline => some reader
      | .comment => some { reader with mode := .lineEnd }
      | .mark '[' => some { reader with mode := .header }
      | _ => reader.takeKeyPart .member [] token
  | .header =>
      match token with
      | .mark '[' => some { reader with mode := .keyPart .arrayHeader [] }
      | _ => reader.takeKeyPart .header [] token
  | .keyPart use path => reader.takeKeyPart use path token
  | .keyNext use path => reader.takeKeyNext use path token
  | .headerEnd path =>
      match token with
      | .mark ']' => do
          let root ← reader.root.appendTable path
          return { reader with root, header := path, mode := .lineEnd }
      | _ => none
  | .value =>
      match token with
      | .blank _ => some reader
      | _ => reader.beginValue token
  | .item =>
      match token with
      | .blank _ | .newline | .comment => some reader
      | .mark ']' => reader.close ']'
      | _ => reader.beginValue token
  | .member =>
      match token with
      | .blank _ | .newline | .comment => some reader
      | .mark '\x7d' => reader.close '\x7d'
      | _ => reader.takeKeyPart .member [] token
  | .separator =>
      match token, reader.frames with
      | .blank _, _ | .newline, _ | .comment, _ => some reader
      | .mark ',', .array _ :: _ => some { reader with mode := .item }
      | .mark ',', .table _ _ :: _ => some { reader with mode := .member }
      | .mark c, _ => reader.close c
      | _, _ => none
  | .lineEnd =>
      match token with
      | .blank _ | .comment => some reader
      | .newline => some { reader with mode := .line }
      | _ => none
  | .word _ | .dateGap _ => none

/-- Puts the value that a word spells into its place. -/
def endWord (reader : Reader) (word : List Char) : Option Reader := do
  reader.settle (← Value.ofWord? word)

/-- Takes a token. A word goes on over letters and points that touch it, and a date over one space
to a time.
-/
def take (reader : Reader) (token : Token) : Option Reader :=
  match reader.mode, token with
  | .word text, .atom more => some { reader with mode := .word (text ++ more) }
  | .word text, .mark '.' => some { reader with mode := .word (text ++ ['.']) }
  | .word text, .blank [' '] =>
      if isDate text then some { reader with mode := .dateGap text } else reader.endWord text
  | .word text, _ => do (← reader.endWord text).takePlain token
  | .dateGap text, .atom more => some { reader with mode := .word (text ++ ' ' :: more) }
  | .dateGap text, _ => do (← reader.endWord text).takePlain token
  | _, _ => reader.takePlain token

/-- The document that has been read when no token is left. -/
def finish (reader : Reader) : Option Members := do
  let reader ← match reader.mode with
    | .word text | .dateGap text => reader.endWord text
    | _ => some reader
  match reader.mode with
  | .line | .lineEnd => some reader.root
  | _ => none

end Reader

/-- The members of the table that a document spells. -/
def parse? (document : List Char) : Option Members := do
  ((← (tokens document).foldlM Reader.take {}).finish)

end Logbook.Toml
