import Logbook.Text.Utf8

/-! Paths, and the names along them, in the bytes under which files are kept.
The bytes need not be text. Where a path is shown, or a name compared with a text, it is the text
that its bytes are read as.
-/

namespace Logbook

open Text

/-- A path of names between slashes, or a single name. -/
abbrev Path := List UInt8

namespace Path

/-- The byte that stands between names, and in front of a path that begins at the root. -/
def slash : UInt8 := 47

/-- The name that stays in a folder. -/
def here : Path := [46]

/-- The name that leads out of a folder. -/
def above : Path := [46, 46]

/-- The path that a text spells. -/
def ofText (text : String) : Path := Utf8.encode text.toList

/-- The text that a path is read as. -/
def text (path : Path) : List Char := Utf8.decode path

/-- A path as it is shown. -/
def shown (path : Path) : String := String.ofList path.text

/-- The path begins at the root. -/
def isAbsolute (path : Path) : Bool := path.head? == some slash

/-- The names along a path. -/
def names (path : Path) : List Path := path.splitOn slash

/-- The path of a name in the folder at a path. -/
def join (folder name : Path) : Path :=
  if folder.isEmpty || folder.getLast? == some slash then
    folder ++ name
  else
    folder ++ slash :: name

end Path

end Logbook
