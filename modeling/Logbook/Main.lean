import Logbook.Command

/-! The command line program: it answers questions about a folder of log files. -/

namespace Logbook

/-- What a file error means for reading. -/
def ReadFault.ofError : IO.Error → ReadFault
  | .noFileOrDirectory .. => .notFound
  | .inappropriateType .. => .notFolder
  | error => .other (toString error)

/-- Reads a file of the machine, which goes by the path as it is shown. -/
def readFile (path : Path) : IO (Except ReadFault (List UInt8)) := do
  try
    if ← (← IO.FS.realPath path.shown).isDir then
      return .error .isFolder
    return .ok (← IO.FS.readBinFile path.shown).toList
  catch error =>
    return .error (.ofError error)

/-- Lists a folder of the machine. What cannot be looked at is taken for no file. -/
def listFolder (path : Path) : IO (Except ListFault (List (Path × Bool))) := do
  try
    let entries ← (← IO.FS.realPath path.shown).readDir
    let listed ← entries.mapM fun entry => do
      try
        return (.ofText entry.fileName, (← entry.path.metadata).type == .file)
      catch _ =>
        return (.ofText entry.fileName, false)
    return .ok listed.toList
  catch
    | .noFileOrDirectory .. => return .error .notFound
    | _ => return .error .notFolder

/-- The files of the machine as a disk. -/
def machine : Disk IO := { read := readFile, list := listFolder }

/-- The variables that commands look at. -/
def variableNames : List String :=
  [
    Settings.documentVariable,
    "ACCESSLOG_LOG_DIR",
    "ACCESSLOG_EXTENSION",
    "ACCESSLOG_MAX_LINE_SIZE",
    "ACCESSLOG_MALFORMED_TASK_ID"
  ]

end Logbook

open Logbook in
/-- Runs a command line on the files of the machine. -/
def main (arguments : List String) : IO UInt32 := do
  let values ← variableNames.mapM fun name => return (name, ← IO.getEnv name)
  match ← Command.run machine (fun name => (values.lookup name).join) arguments with
  | .answered text =>
      IO.println text
      return 0
  | .failed failure =>
      IO.eprintln failure.report
      return 1
  | .usage =>
      IO.eprintln "usage: [--config FILE] [--dir FOLDER] [--json] (query TEXT | summary)"
      return 2
