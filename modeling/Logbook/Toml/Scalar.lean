import Logbook.Calendar
import Logbook.Text.Decimal
import Logbook.Toml.Token
import Logbook.Toml.Value

/-! Values written as one word: numbers, truth values, dates and times.
Integers must fit 128 bits and floats must be finite unless they are spelled as infinite; dates and
times must exist.
-/

namespace Logbook.Toml

open Text

/-- The digits of a numeral whose groups are separated by single underscores. -/
def groupedDigits? (isDigit : Char → Bool) (numeral : List Char) : Option (List Char) :=
  let groups := numeral.splitOn '_'
  if groups.all fun group => !group.isEmpty && group.all isDigit then some groups.flatten else none

/-- The digits of a decimal numeral, which does not begin with a superfluous zero. -/
def decimalDigits? (numeral : List Char) : Option (List Char) := do
  let digits ← groupedDigits? Char.isDigit numeral
  if 1 < digits.length && digits.head? == some '0' then none else some digits

/-- The number that digits denote in a base up to sixteen. -/
def numberInBase? (base : Nat) (numeral : List Char) : Option Nat := do
  let isDigit := fun c : Char =>
    match hexValue? c with
    | none => false
    | some value => value < base
  let digits ← groupedDigits? isDigit numeral
  return digits.foldl (fun n c => n * base + (hexValue? c).getD 0) 0

/-- Splits the sign off a numeral. -/
def splitSign (numeral : List Char) : Bool × List Char :=
  match numeral with
  | '-' :: rest => (true, rest)
  | '+' :: rest => (false, rest)
  | _ => (false, numeral)

/-- Reads an integer. Other bases than ten are announced and have no sign. -/
def integer? (numeral : List Char) : Option Int := do
  let n : Int ← match numeral with
    | '0' :: 'x' :: rest => (numberInBase? 16 rest).map Int.ofNat
    | '0' :: 'o' :: rest => (numberInBase? 8 rest).map Int.ofNat
    | '0' :: 'b' :: rest => (numberInBase? 2 rest).map Int.ofNat
    | _ =>
        let (negative, rest) := splitSign numeral
        let digits ← decimalDigits? rest
        pure (if negative then -(digitsValue digits : Int) else digitsValue digits)
  if -Int.pow 2 127 ≤ n ∧ n < Int.pow 2 128 then some n else none

/-- The least number that rounds to infinity among the floats of 64 bits. -/
def floatBound : Nat := Nat.pow 2 1024 - Nat.pow 2 970

/-- A number of this many digits times a power of ten rounds to a finite float. Only where the
magnitude leaves it open are the numbers themselves compared.
-/
def isFinite (digits : List Char) (exponent : Int) : Bool :=
  let digits := digits.dropWhile (· == '0')
  let magnitude := digits.length + exponent
  if digits.isEmpty || magnitude ≤ 308 then
    true
  else if 310 ≤ magnitude then
    false
  else if 0 ≤ exponent then
    digitsValue digits * Nat.pow 10 exponent.toNat < floatBound
  else
    digitsValue digits < floatBound * Nat.pow 10 (-exponent).toNat

/-- The exponent behind the letter e, or zero where there is none. -/
def exponent? (text : List Char) : Option Int :=
  match text with
  | [] => some 0
  | _ :: numeral => do
      let (negative, rest) := splitSign numeral
      let digits ← groupedDigits? Char.isDigit rest
      return if negative then -(digitsValue digits : Int) else digitsValue digits

/-- The digits behind the point, of which there is one at least, or none where there is no point. -/
def fractionDigits? (text : List Char) : Option (List Char) :=
  match text with
  | [] => some []
  | _ :: numeral => groupedDigits? Char.isDigit numeral

/-- The text spells a float: it has a fraction or an exponent, or is a special value. -/
def isFloat (numeral : List Char) : Bool :=
  let rest := (splitSign numeral).2
  if rest = "inf".toList ∨ rest = "nan".toList then
    true
  else
    let beforeExponent := rest.takeWhile fun c => c != 'e' && c != 'E'
    let whole := beforeExponent.takeWhile (· != '.')
    match decimalDigits? whole, fractionDigits? (beforeExponent.drop whole.length),
      exponent? (rest.drop beforeExponent.length) with
    | some wholeDigits, some fraction, some exponent =>
        whole.length < rest.length && isFinite (wholeDigits ++ fraction) (exponent - fraction.length)
    | _, _, _ => false

/-- The number of a fixed count of digits. -/
def fixedNumber? (count : Nat) (numeral : List Char) : Option Nat :=
  if numeral.length = count ∧ numeral.all Char.isDigit then some (digitsValue numeral) else none

/-- The text is a day of the calendar. -/
def isDate (text : List Char) : Bool :=
  match text.splitOn '-' with
  | [year, month, day] =>
      match fixedNumber? 4 year, fixedNumber? 2 month, fixedNumber? 2 day with
      | some year, some month, some day => 1 ≤ day && day ≤ daysInMonth year month
      | _, _, _ => false
  | _ => false

/-- The text is two numbers below a bound, with a colon between them. -/
def isHourAndMinute (text : List Char) : Bool :=
  match text.splitOn ':' with
  | [hour, minute] =>
      match fixedNumber? 2 hour, fixedNumber? 2 minute with
      | some hour, some minute => hour < 24 && minute < 60
      | _, _ => false
  | _ => false

/-- The text is the seconds of a minute, with or without a fraction. -/
def isSeconds (text : List Char) : Bool :=
  match text.splitOn '.' with
  | [second] => (fixedNumber? 2 second).any (· ≤ 60)
  | [second, fraction] =>
      (fixedNumber? 2 second).any (· ≤ 60) && !fraction.isEmpty && fraction.all Char.isDigit
  | _ => false

/-- The text is a time of day; seconds may be left out. -/
def isTime (text : List Char) : Bool :=
  isHourAndMinute (text.take 5)
    && match text.drop 5 with
      | [] => true
      | ':' :: seconds => isSeconds seconds
      | _ => false

/-- The text is a time of day with its distance from universal time. -/
def isTimeWithOffset (text : List Char) : Bool :=
  match text.getLast? with
  | some 'Z' | some 'z' => isTime text.dropLast
  | _ =>
      let time := text.takeWhile fun c => c != '+' && c != '-'
      isTime time && isHourAndMinute (text.drop (time.length + 1))

/-- The text is a date, a time, or both with the letter T or a space between them. -/
def isMoment (text : List Char) : Bool :=
  isDate text || isTime text
    || match text.drop 10 with
      | separator :: time =>
          (separator == 'T' || separator == 't' || separator == ' ') && isDate (text.take 10)
            && (isTime time || isTimeWithOffset time)
      | [] => false

/-- The value that a word spells. -/
def Value.ofWord? (word : List Char) : Option Value :=
  if word = "true".toList then
    some (.boolean true)
  else if word = "false".toList then
    some (.boolean false)
  else
    match integer? word with
    | some n => some (.integer n)
    | none =>
        if isFloat word then
          some (.float (String.ofList word))
        else if isMoment word then
          some (.moment (String.ofList word))
        else
          none

end Logbook.Toml
