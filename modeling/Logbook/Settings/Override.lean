import Logbook.Settings

/-! Settings overridden by environment variables. A value that cannot be read overrides nothing. -/

namespace Logbook.Settings

open Text

/-- The variable that names the settings document. -/
def documentVariable : String := "ACCESSLOG_CONFIG_FILE"

/-- The settings document that is looked for when none is named. -/
def defaultDocument : String := "accesslog.toml"

/-- The policy that a text names, whatever the case of its letters and the white space around it. -/
def policyOfText? (text : String) : Option Policy :=
  Policy.ofName? (String.ofList ((trim text.toList).map Char.toLower))

/-- The settings with what the variables override. -/
def override (settings : Settings) (lookUp : String → Option String) : Settings :=
  {
    folder := ((lookUp "ACCESSLOG_LOG_DIR").map Path.ofText).getD settings.folder,
    extension := (lookUp "ACCESSLOG_EXTENSION").getD settings.extension,
    limit :=
      ((lookUp "ACCESSLOG_MAX_LINE_SIZE").bind fun text =>
        countUpTo? largestLimit text.toList).getD settings.limit,
    policy :=
      ((lookUp "ACCESSLOG_MALFORMED_TASK_ID").bind policyOfText?).getD settings.policy,
  }

end Logbook.Settings
