/-! Decimal numerals: writing numbers and reading runs of digits.
A reader stops counting as soon as the value passes its limit, so numerals of any length are cheap.
-/

namespace Logbook.Text

/-- The decimal digits of a number, without leading zeros. -/
def digits (n : Nat) : List Char := Nat.toDigits 10 n

/-- The number that a run of digits denotes. -/
def digitsValue (numeral : List Char) : Nat := Nat.ofDigitChars 10 numeral 0

/-- The digits of a number with zeros in front up to `width` places. -/
def paddedDigits (width n : Nat) : List Char := (digits n).leftpad width '0'

/-- An integer in decimal, with a sign exactly when it is negative. -/
def signedDigits (n : Int) : List Char :=
  if n < 0 then '-' :: digits n.natAbs else digits n.natAbs

/-- One more digit behind a value that is at most `limit`, or `none` once the limit is passed. -/
def appendDigit (limit : Nat) (value : Option Nat) (digit : Char) : Option Nat :=
  match value with
  | none => none
  | some n =>
      let next := 10 * n + (digit.toNat - '0'.toNat)
      if next ≤ limit then some next else none

/-- The value of a run of digits when it is at most `limit`. -/
def digitsUpTo? (limit : Nat) (numeral : List Char) : Option Nat :=
  numeral.foldl (appendDigit limit) (some 0)

/-- The value of a text that is one or more digits and nothing else, when it is at most `limit`. -/
def naturalUpTo? (limit : Nat) (text : List Char) : Option Nat :=
  if !text.isEmpty && text.all Char.isDigit then digitsUpTo? limit text else none

/-- Reads a natural number up to `limit` that may have a plus sign. -/
def countUpTo? (limit : Nat) (text : List Char) : Option Nat :=
  match text with
  | '+' :: rest => naturalUpTo? limit rest
  | _ => naturalUpTo? limit text

/-- Reads a 32-bit integer: at most one sign, then digits. -/
def int32? (text : List Char) : Option Int32 :=
  match text with
  | '-' :: rest => (naturalUpTo? 2147483648 rest).map fun n => Int32.ofInt (-n)
  | _ => (countUpTo? 2147483647 text).map fun n => Int32.ofInt n

end Logbook.Text
