import Crontab.Text.LetterCase

/-!
# The log level

The level of logging is a setting of the environment; where it is not set, `INFO` stands for it.
-/

namespace Crontab

/-- The log level for a setting, in upper case. -/
def logLevel (setting? : Option String) : String :=
  String.ofList (Text.upper (setting?.getD "INFO").toList)

end Crontab
