/-! JSON laid out over lines, two spaces deeper for each level.
A value is given as the list of its lines, so that it can be set into another one.
-/

namespace Logbook.Json

/-- A character as it stands inside a JSON string: controls and the two delimiters are escaped. -/
def escapeChar (c : Char) : List Char :=
  if c = '"' then
    ['\\', '"']
  else if c = '\\' then
    ['\\', '\\']
  else if c.toNat = 0x08 then
    ['\\', 'b']
  else if c.toNat = 0x09 then
    ['\\', 't']
  else if c.toNat = 0x0A then
    ['\\', 'n']
  else if c.toNat = 0x0C then
    ['\\', 'f']
  else if c.toNat = 0x0D then
    ['\\', 'r']
  else if c.toNat < 0x20 then
    ['\\', 'u'] ++ (Nat.toDigits 16 c.toNat).leftpad 4 '0'
  else
    [c]

/-- A JSON string. -/
def string (text : String) : String :=
  String.ofList ('"' :: text.toList.flatMap escapeChar ++ ['"'])

/-- A value followed by a comma. -/
def withComma (value : List String) : List String :=
  value.dropLast ++ [value.getLastD "" ++ ","]

/-- Values between two brackets, separated by commas. Without values the brackets stand together. -/
def enclose (opening closing : String) (values : List (List String)) : List String :=
  if values.isEmpty then
    [opening ++ closing]
  else
    let separated := values.dropLast.map withComma ++ [values.getLastD []]
    opening :: separated.flatten.map ("  " ++ ·) ++ [closing]

/-- A JSON array. -/
def array (values : List (List String)) : List String := enclose "[" "]" values

/-- A member of a JSON object. -/
def member (key : String) (value : List String) : List String :=
  match value with
  | [] => []
  | first :: rest => (string key ++ ": " ++ first) :: rest

/-- A JSON object. -/
def object (members : List (List String)) : List String := enclose "\x7b" "\x7d" members

/-- A JSON value as one text. -/
def text (value : List String) : String := "\n".intercalate value

end Logbook.Json
