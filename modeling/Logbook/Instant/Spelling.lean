import Logbook.Instant
import Logbook.Text.Blank
import Logbook.Text.Decimal

/-! How instants are written: `day.month.year hour:minute:second`, and the ISO form.
The first form is also read. The reader accepts leading zeros, white space before each number and
none between the date and the time; the writer uses neither zeros nor superfluous white space.
-/

namespace Logbook.Instant

open Logbook.Text

/-- A year is written with four digits, or with a sign and at least four. -/
def yearText (year : Int) : List Char :=
  if 0 ≤ year ∧ year ≤ 9999 then
    paddedDigits 4 year.natAbs
  else
    (if year < 0 then '-' else '+') :: paddedDigits 4 year.natAbs

/-- An instant as log lines and queries write it. -/
def text (t : Instant) : List Char :=
  digits t.date.day ++ '.' :: digits t.date.month ++ '.' :: yearText t.date.year
    ++ ' ' :: digits t.hour ++ ':' :: digits t.minute ++ ':' :: digits t.second

/-- An instant in the ISO form. -/
def isoText (t : Instant) : List Char :=
  yearText t.date.year ++ '-' :: paddedDigits 2 t.date.month ++ '-' :: paddedDigits 2 t.date.day
    ++ 'T' :: paddedDigits 2 t.hour ++ ':' :: paddedDigits 2 t.minute
    ++ ':' :: paddedDigits 2 t.second

/-- Reads a number of at most `width` digits behind any white space. -/
def readNumber? (width : Nat) (input : List Char) : Option (Nat × List Char) :=
  let input := skipBlanks input
  let numeral := (input.take width).takeWhile Char.isDigit
  if numeral.isEmpty then none else some (digitsValue numeral, input.drop numeral.length)

/-- Reads the digits behind the sign of a year, however many there are. -/
def readYearDigits? (input : List Char) : Option (Nat × List Char) :=
  let numeral := input.takeWhile Char.isDigit
  if numeral.isEmpty then
    none
  else
    (digitsUpTo? firstYear.natAbs numeral).map fun year => (year, input.drop numeral.length)

/-- Reads a year behind any white space: with a sign any number of digits, else at most four. -/
def readYear? (input : List Char) : Option (Int × List Char) :=
  match skipBlanks input with
  | '-' :: rest => (readYearDigits? rest).map fun (year, rest) => (-(year : Int), rest)
  | '+' :: rest => (readYearDigits? rest).map fun (year, rest) => ((year : Int), rest)
  | input => (readNumber? 4 input).map fun (year, rest) => ((year : Int), rest)

/-- Reads one given character. -/
def readMark? (mark : Char) (input : List Char) : Option (List Char) :=
  match input with
  | [] => none
  | c :: rest => if c = mark then some rest else none

/-- Reads an instant that makes up the whole text, white space at both ends apart. -/
def read? (input : List Char) : Option Instant := do
  let (day, rest) ← readNumber? 2 (trim input)
  let rest ← readMark? '.' rest
  let (month, rest) ← readNumber? 2 rest
  let rest ← readMark? '.' rest
  let (year, rest) ← readYear? rest
  let (hour, rest) ← readNumber? 2 rest
  let rest ← readMark? ':' rest
  let (minute, rest) ← readNumber? 2 rest
  let rest ← readMark? ':' rest
  let (second, rest) ← readNumber? 2 rest
  if rest.isEmpty then ofNumbers? day month year hour minute second else none

end Logbook.Instant
