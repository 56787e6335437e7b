import Logbook.Settings

/-! Folders of log files, and the archive that is loaded from one.
Only the regular files that lie directly in the folder count, and only those with the suffix.
-/

namespace Logbook

open Text

/-- What a name in a folder stands for. -/
inductive FolderItem where
  | file (bytes : List UInt8) (breaksOff : Bool)
  | folder
deriving DecidableEq

/-- The names in a folder, in the order in which they are listed. -/
abbrev Folder := List (Path × FolderItem)

/-- Why a folder cannot be listed. -/
inductive ListFault where
  | notFound
  | notFolder
deriving DecidableEq, Repr

/-- The text of a name ends with the suffix when both are compared in small letters. -/
def hasSuffix (suffix : String) (name : Path) : Bool :=
  (lowerCase suffix.toList).isSuffixOf (lowerCase name.text)

namespace Folder

/-- A name in a folder stands for a log file: a regular file, by a name with the suffix. -/
def isLogFile (suffix : String) : Path × FolderItem → Bool
  | (name, .file ..) => hasSuffix suffix name
  | (_, .folder) => false

/-- The names of the log files of a folder. -/
def logFiles (folder : Folder) (suffix : String) : List Path :=
  (folder.filter (isLogFile suffix)).map Prod.fst

/-- The source that a file is, which bears the path of the file as it is shown. -/
def source? (path : Path) : Path × FolderItem → Option Source
  | (name, .file bytes breaksOff) => some { name := (path.join name).shown, bytes, breaksOff }
  | (_, .folder) => none

/-- The log files of the folder at a path, as sources. -/
def sources (folder : Folder) (path : Path) (suffix : String) : List Source :=
  (folder.filter (isLogFile suffix)).filterMap (source? path)

end Folder

/-- Why there is no archive. -/
inductive LoadFault where
  | invalid (fault : Settings.Fault)
  | interrupted (stop : Interruption)
deriving DecidableEq, Repr

namespace Settings

/-- Takes in the log files of the folder that is set. A folder that cannot be listed has none. -/
def load (settings : Settings) (listing : Except ListFault Folder)
    : Intake × Option Interruption :=
  match listing with
  | .error _ => (settings.intake, none)
  | .ok folder => settings.intake.takeSources (folder.sources settings.folder settings.suffix)

/-- The archive of the folder that is set, once the settings are found to be usable. -/
def archive (settings : Settings) (listing : Except ListFault Folder)
    : Except LoadFault Archive :=
  match settings.fault? with
  | some fault => .error (.invalid fault)
  | none =>
      match settings.load listing with
      | (_, some stop) => .error (.interrupted stop)
      | (intake, none) => .ok intake.archive

end Settings

end Logbook
