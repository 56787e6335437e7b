import Logbook.Text.Utf8

/-! Byte sources, and the lines of text in them.
A source is read up to one newline after another. What comes before a newline may hold further
lines between carriage returns, and a carriage return right before the newline belongs to it.
-/

namespace Logbook

/-- The bytes that a named source delivers before it ends or breaks off. -/
structure Source where
  name : String
  bytes : List UInt8
  breaksOff : Bool := false
deriving DecidableEq

namespace Source

/-- The byte that ends a stretch of reading. -/
def newline : UInt8 := 10

/-- The byte that ends a line inside a stretch. -/
def carriageReturn : UInt8 := 13

/-- The bytes before each newline, and those after the last one. A source that breaks off loses
the latter, and where there are none they are no stretch.
-/
def stretches (source : Source) : List (List UInt8) :=
  let cut := source.bytes.splitOn newline
  let rest := cut.getLastD []
  cut.dropLast ++ if source.breaksOff || rest.isEmpty then [] else [rest]

/-- A stretch without a carriage return at its end. -/
def dropFinalReturn (stretch : List UInt8) : List UInt8 :=
  if stretch.getLast? = some carriageReturn then stretch.dropLast else stretch

/-- The lines of one stretch. -/
def linesOfStretch (stretch : List UInt8) : List (List UInt8) :=
  (dropFinalReturn stretch).splitOn carriageReturn

/-- The lines of a source, as bytes. -/
def byteLines (source : Source) : List (List UInt8) := source.stretches.flatMap linesOfStretch

/-- The lines of a source, as texts. -/
def lines (source : Source) : List String :=
  source.byteLines.map fun line => String.ofList (Text.Utf8.decode line)

end Source

end Logbook
