import Logbook.Intake
import Logbook.Path
import Logbook.Text.LowerCase

/-! Settings: where the log files are, which they are, and how their lines are taken in. -/

namespace Logbook

open Text

/-- What can be set. -/
structure Settings where
  folder : Path := .ofText "logs"
  extension : String := "log"
  limit : Nat := Entry.defaultLimit
  policy : Policy := .skip
deriving DecidableEq, Repr

namespace Settings

/-- The largest limit that can be set, the last number of 64 bits. -/
def largestLimit : Nat := UInt64.size - 1

/-- The extension without the dots in front of it. -/
def bareExtension (settings : Settings) : List Char :=
  settings.extension.toList.dropWhile (· == '.')

/-- Why settings cannot be used. -/
inductive Fault where
  | emptyExtension
  | zeroLimit
deriving DecidableEq, Repr

/-- What is said about settings that cannot be used. -/
def Fault.message : Fault → String
  | emptyExtension => "extension must not be empty"
  | zeroLimit => "max_line_size must be > 0"

/-- The first fault of the settings, the extension being looked at before the limit. -/
def fault? (settings : Settings) : Option Fault :=
  if settings.bareExtension.isEmpty then
    some .emptyExtension
  else if settings.limit = 0 then
    some .zeroLimit
  else
    none

/-- How the names of log files end, in small letters. -/
def suffix (settings : Settings) : String :=
  String.ofList ('.' :: lowerCase settings.bareExtension)

/-- An empty intake under these settings. -/
def intake (settings : Settings) : Intake :=
  { policy := settings.policy, limit := settings.limit }

end Settings

end Logbook
