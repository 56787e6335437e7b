import Logbook.Text.CaseIgnorable
import Logbook.Text.CaseRun
import Logbook.Text.Cased

/-! Lower-casing of whole texts by the full Unicode mapping.
One capital becomes two characters, and a capital sigma looks at its neighbours: at the end of a
word it becomes the final small sigma.
-/

namespace Logbook.Text

/-- The small form of one character, taken without its neighbours. -/
def lowerChar (c : Char) : List Char :=
  if c.toNat < 0x80 then
    [c.toLower]
  else if c.toNat = 0x130 then
    ['i', Char.ofNat 0x307]
  else
    match caseRuns.find? (fun run => run.covers c.toNat) with
    | none => [c]
    | some run => [Char.ofNat (c.toNat + run.shift).toNat]

/-- Looking away from a place in the text, the first character that case rules do not look through
is a cased one. -/
def meetsCased (neighbours : List Char) : Bool :=
  match neighbours.dropWhile (CodeRange.listContains caseIgnorableRanges) with
  | [] => false
  | c :: _ => CodeRange.listContains casedRanges c

/-- The small form of a character between the text before it, nearest first, and the text after
it: a capital sigma is final exactly when a word ends with it. -/
def lowerBetween (before : List Char) (c : Char) (after : List Char) : List Char :=
  if c = 'Σ' then
    [if meetsCased before && !meetsCased after then 'ς' else 'σ']
  else
    lowerChar c

/-- Lower-cases the characters of `text`, which stands after `before` read backwards. -/
def lowerAfter (before : List Char) : List Char → List Char
  | [] => []
  | c :: rest => lowerBetween before c rest ++ lowerAfter (c :: before) rest

/-- Lower-cases a text, each character in its place. -/
def lowerCase (text : List Char) : List Char := lowerAfter [] text

end Logbook.Text
