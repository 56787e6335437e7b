import Logbook.Text.Reading

/-! Occurrences of a word in a text.
They are found from the left and do not overlap: the search goes on behind each one found.
-/

namespace Logbook.Text

/-- Marks an occurrence of `word` at the front by `none`, or else passes over one character. -/
def markStep (word : List Char) : Step Char (Option Char) :=
  {
    read := fun c rest =>
      if word.isPrefixOf (c :: rest) then (none, rest.drop (word.length - 1)) else (some c, rest),
    shortens := fun c rest => by
      split
      · simp
      · exact Nat.le_refl _,
  }

/-- The text with every occurrence of `word` replaced by a mark. -/
def marked (word text : List Char) : List (Option Char) := (markStep word).readAll text

/-- The word occurs in the text. -/
def occurs (word text : List Char) : Bool := (marked word text).contains none

/-- The text with the occurrences of `word` taken out. -/
def without (word text : List Char) : List Char := (marked word text).filterMap id

end Logbook.Text
