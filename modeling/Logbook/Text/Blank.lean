/-! White space of written text, and its removal at both ends.
The class is the Unicode property White_Space, which has no member outside the basic plane.
-/

namespace Logbook.Text

/-- A character separates words exactly when it has the property White_Space. -/
def isBlank (c : Char) : Bool :=
  let code := c.toNat
  (9 ≤ code && code ≤ 13) || code == 0x20 || code == 0x85 || code == 0xA0 || code == 0x1680
    || (0x2000 ≤ code && code ≤ 0x200A) || code == 0x2028 || code == 0x2029 || code == 0x202F
    || code == 0x205F || code == 0x3000

/-- Drops the white space at the front. -/
def skipBlanks (text : List Char) : List Char := text.dropWhile isBlank

/-- Drops the items at the end that satisfy `p`. -/
def dropTrailing {α : Type} (p : α → Bool) (items : List α) : List α :=
  (items.reverse.dropWhile p).reverse

/-- Drops the white space at both ends. -/
def trim (text : List Char) : List Char := dropTrailing isBlank (skipBlanks text)

end Logbook.Text
