import Logbook.Query.Answer
import Logbook.Report.Json

/-! How answers are shown: one value per line, in brackets, or as a JSON array. -/

namespace Logbook.Answer

/-- One value per line. -/
def plain (answer : Answer) : String := "\n".intercalate answer.lines

/-- The values in brackets. -/
def bracketed (answer : Answer) : String := "[" ++ ", ".intercalate answer.lines ++ "]"

/-- The values as JSON writes them, times in the ISO form. -/
def jsonValues : Answer → List String
  | times values => values.map fun t => String.ofList t.isoText
  | answer => answer.lines

/-- A JSON array of the values. -/
def json (answer : Answer) : String :=
  Json.text (Json.array (answer.jsonValues.map fun value => [Json.string value]))

/-- The values in the form asked for. -/
def render (answer : Answer) (asJson : Bool) : String :=
  if asJson then answer.json else answer.plain

end Logbook.Answer
