import Logbook.Text.Quoted

/-! What can be wrong with the text of a query, and how it is said. -/

namespace Logbook.Query

/-- What could have stood at a place in a query. -/
inductive Expected where
  | keyword (word : String)
  | selector
  | equals
  | literal
  | ending
deriving DecidableEq, Repr

/-- The name of what could have stood at a place. -/
def Expected.text : Expected → String
  | keyword word => word
  | selector => "a selector"
  | equals => "="
  | literal => "a quoted literal"
  | ending => "end of query"

/-- What is wrong with the text of a query. -/
inductive Error where
  | empty
  | unclosedLiteral (offset : Nat)
  | unexpectedToken (expected : Expected) (found : String) (offset : Nat)
  | unexpectedEnd (expected : Expected)
  | unknownSelector (found : String) (offset : Nat)
  | invalidTime (literal : String)
  | unknownEvent (literal : String)
  | unknownStatus (literal : String)
deriving DecidableEq, Repr

open Text in
/-- What is said about the text of a query. -/
def Error.message : Error → String
  | empty => "Empty query"
  | unclosedLiteral offset => s!"Unterminated quoted literal starting at offset {offset}"
  | unexpectedToken expected found offset =>
      "Expected " ++ expected.text ++ s!" at offset {offset}, found " ++ quoted found
  | unexpectedEnd expected => "Expected " ++ expected.text ++ ", found end of query"
  | unknownSelector found offset =>
      "Unknown selector " ++ quoted found
        ++ s!" at offset {offset} (expected ip, user, date, event or status)"
  | invalidTime literal =>
      "Invalid date literal " ++ quoted literal ++ " (expected d.M.yyyy H:m:s)"
  | unknownEvent literal => "Unknown event " ++ quoted literal
  | unknownStatus literal => "Unknown status " ++ quoted literal

end Logbook.Query
