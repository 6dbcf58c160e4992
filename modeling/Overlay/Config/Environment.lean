/-
# Overlay.Config.Environment — a configuration from environment variables

One variable stands for each setting.  A flag is read first and by a rule of its own,
which knows fewer words and names the variable where it fails.  What remains is read
as settings are.  An unset variable leaves its setting at the default, and so does a
variable for the level that is empty.
-/
import Overlay.Config.Settings

namespace Overlay

set_option autoImplicit false

namespace Setting

/-- The environment variable of a setting. -/
def variableName : Setting → String
  | .maxMessageBytes => "SAFEWIRE_MAX_MESSAGE_BYTES"
  | .acceptTextTags => "SAFEWIRE_ACCEPT_STRING_TAGS"
  | .logDecodeEvents => "SAFEWIRE_LOG_DECODE_EVENTS"
  | .logLevel => "SAFEWIRE_LOG_LEVEL"

end Setting

namespace Config

/-- The words that a variable may hold for a flag that is set. -/
def trueVariable : List String := ["1", "true", "yes", "y", "on"]

/-- The words that a variable may hold for a flag that is not set. -/
def falseVariable : List String := ["0", "false", "no", "n", "off"]

/-- The flag that the text of a variable gives, in any case and with white space at its ends. -/
def variableFlag? (text : String) : Option Bool :=
  let word := Text.lower (Text.strip text)
  if trueVariable.contains word then some true
  else if falseVariable.contains word then some false
  else none

/-- The flag of a setting, if its variable is set. -/
def readFlag (lookup : String → Option String) (setting : Setting) :
    Except ConfigFault (List (String × Datum)) :=
  match lookup setting.variableName with
  | none => .ok []
  | some text =>
    match variableFlag? text with
    | some flag => .ok [(setting.title, .bool flag)]
    | none => .error (.flag setting.variableName text)

/-- The size as a setting, if its variable is set. -/
def readSize (lookup : String → Option String) : List (String × Datum) :=
  match lookup Setting.maxMessageBytes.variableName with
  | none => []
  | some text => [(Setting.maxMessageBytes.title, .text (Text.strip text))]

/-- The level as a setting, if its variable is set and not empty. -/
def readLevel (lookup : String → Option String) : List (String × Datum) :=
  match lookup Setting.logLevel.variableName with
  | none => []
  | some text => if text = "" then [] else [(Setting.logLevel.title, .text text)]

/-- The configuration that environment variables describe. -/
def ofEnvironment (lookup : String → Option String) : Except ConfigFault Config := do
  let accept ← readFlag lookup .acceptTextTags
  let events ← readFlag lookup .logDecodeEvents
  match ofSettings (readSize lookup ++ accept ++ events ++ readLevel lookup) with
  | .ok config => return config
  | .error names => .error (.settings names)

end Config

end Overlay
