import Logbook.Disk

/-! Files and folders as a value, which is a disk without effects.
A path that begins with a slash leads from the root, and any other path from the home. Names are
bytes, whether or not these are text.
-/

namespace Logbook

/-- A file, or a folder of named trees. -/
inductive FileTree where
  | file (bytes : List UInt8)
  | folder (items : List (Path × FileTree))

namespace FileTree

/-- The tree at the end of a path of names, given the folders on the way, nearest first. The root
has nothing above it, and what leads out of it stays there.
-/
def walk (passed : List FileTree) (tree : FileTree) : List Path → Except ReadFault FileTree
  | [] => .ok tree
  | name :: rest =>
      match tree with
      | file _ => .error .notFolder
      | folder items =>
          if name = [] ∨ name = Path.here then
            walk passed tree rest
          else if name = Path.above then
            match passed with
            | [] => walk [] tree rest
            | parent :: passed => walk passed parent rest
          else
            match items.lookup name with
            | none => .error .notFound
            | some next => walk (tree :: passed) next rest

/-- The tree is a regular file. -/
def isFile : FileTree → Bool
  | file _ => true
  | folder _ => false

/-- The tree with a file or folder put at the end of a path, in folders made as needed. -/
def put (tree : FileTree) (path : List Path) (leaf : FileTree) : FileTree :=
  match path with
  | [] =>
      match tree, leaf with
      | folder _, folder [] => tree
      | _, _ => leaf
  | name :: rest =>
      let items :=
        match tree with
        | folder items => items
        | file _ => []
      let next := put ((items.lookup name).getD (folder [])) rest leaf
      folder (items.filter (·.1 != name) ++ [(name, next)])

end FileTree

/-- The tree below the root, and the names that lead from the root to the home. -/
structure FileSystem where
  root : FileTree
  home : List Path := []

namespace FileSystem

/-- The names from the root to where a path begins. -/
def start (files : FileSystem) (path : Path) : List Path :=
  if path.isAbsolute then [] else files.home

/-- The tree at the end of a path. The empty path leads nowhere. -/
def at? (files : FileSystem) (path : Path) : Except ReadFault FileTree :=
  if path.isEmpty then
    .error .notFound
  else
    files.root.walk [] (files.start path ++ path.names)

/-- The bytes of the file at the end of a path. -/
def read (files : FileSystem) (path : Path) : Except ReadFault (List UInt8) :=
  match files.at? path with
  | .ok (.file bytes) => .ok bytes
  | .ok (.folder _) => .error .isFolder
  | .error fault => .error fault

/-- The names in the folder at the end of a path. -/
def list (files : FileSystem) (path : Path) : Except ListFault (List (Path × Bool)) :=
  match files.at? path with
  | .ok (.folder items) => .ok (items.map fun (name, item) => (name, item.isFile))
  | .ok (.file _) | .error .notFolder => .error .notFolder
  | .error _ => .error .notFound

/-- The file system as a disk. -/
def disk (files : FileSystem) : Disk Id := { read := files.read, list := files.list }

end FileSystem

end Logbook
