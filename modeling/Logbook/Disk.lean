import Logbook.Folder

/-! Where files come from: a disk that reads files and lists folders, by their paths.
The effect of doing so is left open, so that a disk can be real or a value.
-/

namespace Logbook

/-- Why a file cannot be read. -/
inductive ReadFault where
  | notFound
  | isFolder
  | notFolder
  | other (message : String)
deriving DecidableEq, Repr

/-- What is said about a file that cannot be read. -/
def ReadFault.message : ReadFault → String
  | notFound => "No such file or directory (os error 2)"
  | isFolder => "Is a directory (os error 21)"
  | notFolder => "Not a directory (os error 20)"
  | other message => message

/-- Access to files. A listing tells regular files from all else. -/
structure Disk (m : Type → Type) where
  read : Path → m (Except ReadFault (List UInt8))
  list : Path → m (Except ListFault (List (Path × Bool)))

namespace Disk

variable {m : Type → Type} [Monad m]

/-- What a listed name stands for. Files without the suffix are not read, and a file that cannot
be read breaks off at once.
-/
def item (disk : Disk m) (path : Path) (suffix : String) (listed : Path × Bool)
    : m (Path × FolderItem) := do
  let (name, isFile) := listed
  if isFile && hasSuffix suffix name then
    match ← disk.read (path.join name) with
    | .ok bytes => return (name, .file bytes false)
    | .error _ => return (name, .file [] true)
  else
    return (name, .folder)

/-- The folder at a path, as far as its log files go. -/
def folder (disk : Disk m) (path : Path) (suffix : String)
    : m (Except ListFault Folder) := do
  match ← disk.list path with
  | .error fault => return .error fault
  | .ok listed => return .ok (← listed.mapM (disk.item path suffix))

end Disk

end Logbook
