import Logbook.Command.Arguments
import Logbook.Disk
import Logbook.Report
import Logbook.Settings.Document
import Logbook.Settings.Override
import Logbook.Summary

/-! Running a command: settings are found, the log files loaded, and the answer is shown. -/

namespace Logbook.Command

/-- Why a command has no answer. -/
inductive Failure where
  | unreadableDocument (path message : String)
  | malformedDocument (path : String)
  | notLoaded (fault : LoadFault)
  | badQuery (text : String) (error : Query.Error)

namespace Failure

/-- What went wrong. -/
def message : Failure → String
  | unreadableDocument path _ => "Failed to read config file " ++ path
  | malformedDocument path => "Failed to parse config file " ++ path
  | notLoaded (.invalid _) => "Invalid configuration"
  | notLoaded (.interrupted _) => "Failed to ingest access logs"
  | badQuery text _ => "Invalid query: " ++ text

/-- What it was caused by, where that can be said. -/
def cause? : Failure → Option String
  | unreadableDocument _ message => some message
  | malformedDocument _ => none
  | notLoaded (.invalid fault) => some fault.message
  | notLoaded (.interrupted stop) => some stop.message
  | badQuery _ error => some error.message

/-- What went wrong and why, on one line. -/
def line (failure : Failure) : String :=
  ": ".intercalate (failure.message :: failure.cause?.toList)

/-- The lines of a text, each behind four spaces. -/
def indented (text : String) : String :=
  String.ofList
    (['\n'].intercalate ((text.toList.splitOn '\n').map fun line => "    ".toList ++ line))

/-- What went wrong and why, as it is shown to the user. -/
def report (failure : Failure) : String :=
  "Error: " ++ failure.message
    ++ match failure.cause? with
      | none => ""
      | some cause => "\n\nCaused by:\n" ++ indented cause

end Failure

/-- What comes of a command line. -/
inductive Outcome where
  | usage
  | failed (failure : Failure)
  | answered (text : String)

section Run

variable {m : Type → Type} [Monad m]

/-- The settings in a document that has been read. -/
def settingsOfBytes (path : String) (bytes : List UInt8) : Except Failure Settings :=
  match Text.Utf8.decodeStrict? bytes with
  | none => .error (.unreadableDocument path "stream did not contain valid UTF-8")
  | some document =>
      match Settings.ofDocument? document with
      | none => .error (.malformedDocument path)
      | some settings => .ok settings

/-- The settings in the document that was asked for, or else in the one that the environment
names or that is looked for by default; only the latter two may be missing.
-/
def settings (disk : Disk m) (lookUp : String → Option String) (asked : Option String)
    : m (Except Failure Settings) := do
  let path :=
    asked.getD ((lookUp Settings.documentVariable).getD Settings.defaultDocument)
  match ← disk.read (.ofText path) with
  | .ok bytes => return settingsOfBytes path bytes
  | .error fault =>
      if asked.isNone && (fault == .notFound || fault == .notFolder) then
        return .ok {}
      else
        return .error (.unreadableDocument path fault.message)

/-- The text that answers a task. -/
def answer (archive : Archive) (asJson : Bool) : Task → Except Failure String
  | .query text =>
      match archive.ask text with
      | .ok answer => .ok (answer.render asJson)
      | .error error => .error (.badQuery text error)
  | .summary => .ok (archive.summary.render asJson)

/-- Does what a request asks for. -/
def perform (disk : Disk m) (lookUp : String → Option String) (request : Request)
    : m (Except Failure String) := do
  match ← settings disk lookUp request.document with
  | .error failure => return .error failure
  | .ok found =>
      let found := found.override lookUp
      let found := { found with folder := (request.folder.map Path.ofText).getD found.folder }
      match found.archive (← disk.folder found.folder found.suffix) with
      | .error fault => return .error (.notLoaded fault)
      | .ok archive => return answer archive request.asJson request.task

/-- Runs a command line. -/
def run (disk : Disk m) (lookUp : String → Option String) (arguments : List String)
    : m Outcome := do
  match request? arguments with
  | none => return .usage
  | some request =>
      match ← perform disk lookUp request with
      | .ok text => return .answered text
      | .error failure => return .failed failure

end Run

end Logbook.Command
