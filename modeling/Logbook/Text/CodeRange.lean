/-! Character classes given as ascending lists of code point ranges.
A class is read off its list by skipping the ranges that end before the character.
-/

namespace Logbook.Text

/-- The code points from `first` to `last`, both included. -/
structure CodeRange where
  first : Nat
  last : Nat
deriving DecidableEq, Repr

/-- A character belongs to an ascending list of disjoint ranges exactly when the first range
that does not end before it has already begun. -/
def CodeRange.listContains (ranges : List CodeRange) (c : Char) : Bool :=
  match ranges.dropWhile (fun range => range.last < c.toNat) with
  | [] => false
  | range :: _ => range.first ≤ c.toNat

end Logbook.Text
