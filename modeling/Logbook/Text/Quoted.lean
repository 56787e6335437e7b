import Logbook.Text.Unprintable

/-! Texts quoted inside messages, so that every character of them can be seen.
The quotation is one line of printable characters, whatever the text holds.
-/

namespace Logbook.Text

/-- A character written by its code point in hexadecimal. -/
def escapeByCode (c : Char) : List Char :=
  ['\\', 'u', '\x7b'] ++ Nat.toDigits 16 c.toNat ++ ['\x7d']

/-- A character as it stands inside a quotation. -/
def quoteChar (c : Char) : List Char :=
  if c = '"' then
    ['\\', '"']
  else if c = '\\' then
    ['\\', '\\']
  else if c = '\n' then
    ['\\', 'n']
  else if c = '\r' then
    ['\\', 'r']
  else if c = '\t' then
    ['\\', 't']
  else if c.toNat = 0 then
    ['\\', '0']
  else if CodeRange.listContains unprintableRanges c then
    escapeByCode c
  else
    [c]

/-- A text between double quotes with its special characters escaped. -/
def quoted (text : String) : String :=
  String.ofList ('"' :: text.toList.flatMap quoteChar ++ ['"'])

end Logbook.Text
