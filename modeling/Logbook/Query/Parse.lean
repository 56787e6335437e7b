import Logbook.Event
import Logbook.Instant.Spelling
import Logbook.Query
import Logbook.Query.Token

/-! Reading queries, token by token.
A query is `get` and a selector, then at most one clause `for` selector `=` literal, then at most
one clause `and date between` literal `and` literal. The stage that the reader has reached holds
what it has understood so far, and says which tokens can go on from there.
-/

namespace Logbook.Query

/-- How far a query has been read. A draft is a query that further clauses may complete. -/
inductive Stage where
  | start
  | selector
  | selected (draft : Query)
  | field (draft : Query)
  | equals (draft : Query) (about : Attribute)
  | value (draft : Query) (about : Attribute)
  | conditioned (draft : Query)
  | date (draft : Query)
  | between (draft : Query)
  | after (draft : Query)
  | conjunction (draft : Query) (after : Instant)
  | before (draft : Query) (after : Instant)
  | complete (query : Query)
deriving DecidableEq

namespace Token

/-- The token is the given word. -/
def isWord (token : Token) (word : String) : Bool := token.kind == .word word

/-- The error that something else could have stood in the place of a token. -/
def unexpected (token : Token) (expected : Expected) : Error :=
  .unexpectedToken expected token.kind.source token.offset

/-- The attribute that a token names. -/
def selector (token : Token) : Except Error Attribute :=
  match token.kind with
  | .word word =>
      match Attribute.ofKeyword? word with
      | some selected => .ok selected
      | none => .error (.unknownSelector word token.offset)
  | _ => .error (token.unexpected .selector)

/-- The contents of a token that is a quoted literal. -/
def literal (token : Token) : Except Error String :=
  match token.kind with
  | .quoted text => .ok text
  | _ => .error (token.unexpected .literal)

end Token

/-- The instant that a literal spells. -/
def timeOfLiteral (literal : String) : Except Error Instant :=
  match Instant.read? literal.toList with
  | some time => .ok time
  | none => .error (.invalidTime literal)

/-- The condition that an attribute has the value which a literal spells. -/
def conditionOfLiteral (about : Attribute) (literal : String) : Except Error Condition :=
  match about with
  | .address => .ok (.address literal)
  | .user => .ok (.user literal)
  | .time => (timeOfLiteral literal).map .time
  | .event =>
      match Event.ofName? literal with
      | some event => .ok (.event event)
      | none => .error (.unknownEvent literal)
  | .status =>
      match Status.ofName? literal with
      | some status => .ok (.status status)
      | none => .error (.unknownStatus literal)

namespace Stage

/-- Goes on past a keyword. -/
def expectWord (token : Token) (word : String) (next : Stage) : Except Error Stage :=
  if token.isWord word then .ok next else .error (token.unexpected (.keyword word))

/-- Goes on past a token. -/
def step (stage : Stage) (token : Token) : Except Error Stage :=
  match stage with
  | start => expectWord token "get" selector
  | selector => token.selector.map fun select => selected { select }
  | selected draft =>
      if token.isWord "for" then
        .ok (field draft)
      else if token.isWord "and" then
        .ok (date draft)
      else
        .error (token.unexpected .ending)
  | field draft => token.selector.map (equals draft)
  | equals draft about =>
      if token.kind = .equals then .ok (value draft about) else .error (token.unexpected .equals)
  | value draft about => do
      let condition ← conditionOfLiteral about (← token.literal)
      return conditioned { draft with condition := some condition }
  | conditioned draft =>
      if token.isWord "and" then .ok (date draft) else .error (token.unexpected .ending)
  | date draft => expectWord token "date" (between draft)
  | between draft => expectWord token "between" (after draft)
  | after draft => do
      let time ← timeOfLiteral (← token.literal)
      return conjunction draft time
  | conjunction draft time => expectWord token "and" (before draft time)
  | before draft time => do
      let closing ← timeOfLiteral (← token.literal)
      return complete { draft with window := some (.between time closing) }
  | complete _ => .error (token.unexpected .ending)

/-- The query that has been read when no token is left. -/
def finish : Stage → Except Error Query
  | selected query | conditioned query | complete query => .ok query
  | start => .error (.unexpectedEnd (.keyword "get"))
  | selector | field _ => .error (.unexpectedEnd .selector)
  | equals _ _ => .error (.unexpectedEnd .equals)
  | value _ _ | after _ | before _ _ => .error (.unexpectedEnd .literal)
  | date _ => .error (.unexpectedEnd (.keyword "date"))
  | between _ => .error (.unexpectedEnd (.keyword "between"))
  | conjunction _ _ => .error (.unexpectedEnd (.keyword "and"))

end Stage

/-- The query that a list of tokens spells. -/
def ofTokens (tokens : List Token) : Except Error Query := do
  if tokens.isEmpty then throw .empty
  (← tokens.foldlM Stage.step .start).finish

/-- The query that a text spells. -/
def parse (text : String) : Except Error Query := do
  ofTokens (← tokens text)

end Logbook.Query
