/-! Values of TOML documents, and how tables grow while a document is read.
Each table remembers how it came about, since that decides who may still add to it.
-/

namespace Logbook.Toml

/-- How a table came about: between braces, by a dotted key, by being passed through in a header,
or by a header of its own.
-/
inductive Origin where
  | inline
  | dotted
  | implied
  | opened
deriving DecidableEq, Repr

/-- A value. A growing array is one of tables, to which further headers add. -/
inductive Value where
  | text (text : String)
  | integer (n : Int)
  | float (numeral : String)
  | boolean (b : Bool)
  | moment (spelling : String)
  | array (growing : Bool) (items : List Value)
  | table (origin : Origin) (members : List (String × Value))

/-- The members of a table in the order in which they were given. -/
abbrev Members := List (String × Value)

namespace Members

/-- The value of a member. -/
def get? (members : Members) (key : String) : Option Value := members.lookup key

/-- Gives a member a value, in its old place if it had one. -/
def put (members : Members) (key : String) (value : Value) : Members :=
  if members.any (·.1 == key) then
    members.map fun member => if member.1 == key then (key, value) else member
  else
    members ++ [(key, value)]

/-- Gives a new member a value. The keys before the last lead through tables that dotted keys
have made, or make them; nothing is overwritten.
-/
def assign (members : Members) (path : List String) (value : Value) : Option Members :=
  match path with
  | [] => none
  | [key] => if (members.get? key).isSome then none else some (members.put key value)
  | key :: rest =>
      match members.get? key with
      | none => (assign [] rest value).map fun inner => members.put key (.table .dotted inner)
      | some (.table .dotted inner) =>
          (assign inner rest value).map fun inner => members.put key (.table .dotted inner)
      | some _ => none

/-- Changes the table at the end of a path. The path leads through tables, through the latest table
of a growing array, and through tables that it implies; it does not lead into an inline table.
-/
def within (members : Members) (path : List String) (change : Members → Option Members)
    : Option Members :=
  match path with
  | [] => change members
  | key :: rest =>
      match members.get? key with
      | none => (within [] rest change).map fun inner => members.put key (.table .implied inner)
      | some (.table .inline _) => none
      | some (.table origin inner) =>
          (within inner rest change).map fun inner => members.put key (.table origin inner)
      | some (.array true items) =>
          match items.getLast? with
          | some (.table origin inner) =>
              (within inner rest change).map fun inner =>
                members.put key (.array true (items.dropLast ++ [.table origin inner]))
          | _ => none
      | some _ => none

/-- Opens a table by its header. A table is opened once, and only if no dotted key has made it. -/
def openTable (members : Members) (path : List String) : Option Members :=
  match path.getLast? with
  | none => none
  | some key =>
      members.within path.dropLast fun parent =>
        match parent.get? key with
        | none => some (parent.put key (.table .opened []))
        | some (.table .implied inner) => some (parent.put key (.table .opened inner))
        | some _ => none

/-- Adds a table to a growing array by a header, making the array if there is none. -/
def appendTable (members : Members) (path : List String) : Option Members :=
  match path.getLast? with
  | none => none
  | some key =>
      members.within path.dropLast fun parent =>
        match parent.get? key with
        | none => some (parent.put key (.array true [.table .opened []]))
        | some (.array true items) =>
            some (parent.put key (.array true (items ++ [.table .opened []])))
        | some _ => none

end Members

end Logbook.Toml
