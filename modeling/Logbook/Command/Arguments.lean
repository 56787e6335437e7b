import Logbook.Text.Reading

/-! Command line arguments: two options with a value, a flag, and a command with its words.
Options may stand before and behind the command; each is given at most once on either side, and
what is said behind the command counts.
-/

namespace Logbook.Command

open Text

/-- What a command is to do. -/
inductive Task where
  | query (text : String)
  | summary
deriving DecidableEq, Repr

/-- What the command line asks for. -/
structure Request where
  document : Option String := none
  folder : Option String := none
  asJson : Bool := false
  task : Task
deriving DecidableEq, Repr

/-- An argument, together with its value if it takes one. -/
inductive Argument where
  | document (path : String)
  | folder (path : String)
  | json
  | word (text : String)
  | wrong
deriving DecidableEq

/-- The value of an option, behind it or joined to it, is a path and not empty. -/
def optionValue (make : String → Argument) (value : String) : Argument :=
  if value.isEmpty then .wrong else make value

/-- An argument that begins with a dash and is more than a dash is no value and no word. -/
def isOption (argument : String) : Bool :=
  argument.toList.head? == some '-' && argument != "-"

/-- Takes the value of an option from the arguments that follow it. -/
def followingValue (make : String → Argument) (rest : List String) : Argument × List String :=
  match rest with
  | [] => (.wrong, [])
  | value :: more => (if isOption value then .wrong else optionValue make value, more)

/-- Reads an argument. -/
def readArgument (argument : String) (rest : List String) : Argument × List String :=
  let chars := argument.toList
  let joined := fun option : String => (option ++ "=").toList
  let value := fun option : String => String.ofList (chars.drop (joined option).length)
  if argument = "--config" then
    followingValue .document rest
  else if argument = "--dir" then
    followingValue .folder rest
  else if argument = "--json" then
    (.json, rest)
  else if (joined "--config").isPrefixOf chars then
    (optionValue .document (value "--config"), rest)
  else if (joined "--dir").isPrefixOf chars then
    (optionValue .folder (value "--dir"), rest)
  else if isOption argument then
    (.wrong, rest)
  else
    (.word argument, rest)

theorem followingValue_rest_length (make : String → Argument) (rest : List String)
    : (followingValue make rest).2.length ≤ rest.length := by
  unfold followingValue
  split
  · exact Nat.le_refl _
  · exact Nat.le_succ _

theorem readArgument_rest_length (argument : String) (rest : List String)
    : (readArgument argument rest).2.length ≤ rest.length := by
  unfold readArgument
  dsimp only
  split
  · exact followingValue_rest_length _ _
  split
  · exact followingValue_rest_length _ _
  split <;> (try split) <;> (try split) <;> (try split) <;> exact Nat.le_refl _

/-- One argument off the front of a command line. -/
def argumentStep : Step String Argument :=
  {
    read := readArgument,
    shortens := readArgument_rest_length,
  }

/-- The argument is a word. -/
def Argument.isWord : Argument → Bool
  | word _ => true
  | _ => false

/-- The words among arguments. -/
def words (arguments : List Argument) : List String :=
  arguments.filterMap fun
    | .word text => some text
    | _ => none

/-- What options may say once. -/
def atMostOne {α : Type} (values : List α) : Option (Option α) :=
  match values with
  | [] => some none
  | [value] => some (some value)
  | _ => none

/-- What the options on one side of the command say. -/
structure Options where
  document : Option String
  folder : Option String
  json : Option Unit

/-- The options among arguments, none of them given twice. -/
def options? (arguments : List Argument) : Option Options := do
  if arguments.contains .wrong then none
  return {
    document := ← atMostOne (arguments.filterMap fun
      | .document path => some path
      | _ => none),
    folder := ← atMostOne (arguments.filterMap fun
      | .folder path => some path
      | _ => none),
    json := ← atMostOne (arguments.filterMap fun
      | .json => some ()
      | _ => none),
  }

/-- The task that a command and its words name. -/
def task? (command : String) (words : List String) : Option Task :=
  match command, words with
  | "query", [text] => some (.query text)
  | "summary", [] => some .summary
  | _, _ => none

/-- What the command line asks for. Behind a double dash every argument is a word. -/
def request? (arguments : List String) : Option Request := do
  let escaped := (arguments.dropWhile (· != "--")).drop 1
  let read := argumentStep.readAll (arguments.takeWhile (· != "--"))
  match read.dropWhile (!·.isWord) with
  | .word command :: behind =>
      let outer ← options? (read.takeWhile (!·.isWord))
      let inner ← options? behind
      return {
        document := inner.document.or outer.document,
        folder := inner.folder.or outer.folder,
        asJson := (inner.json.or outer.json).isSome,
        task := ← task? command (words behind ++ escaped),
      }
  | _ => none

end Logbook.Command
