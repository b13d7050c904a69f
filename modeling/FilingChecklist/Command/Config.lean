import FilingChecklist.Text.Blank
import FilingChecklist.Text.Quoted

namespace FilingChecklist

inductive LogFormat
  | text
  | json
  deriving DecidableEq

def LogFormat.name : LogFormat → String
  | text => "text"
  | json => "json"

/-- The format that a text names, white space around it and the case of A to Z ignored. Blank text
names the default. -/
def LogFormat.ofText? (s : String) : Option LogFormat :=
  let word := Text.asciiLower (Text.trimmed s)
  if word = "" ∨ word = "text" then some .text
  else if word = "json" then some .json
  else none

structure Config where
  storePath : String
  logFormat : LogFormat
  deriving DecidableEq

inductive ConfigError
  | emptyStorePath
  | invalidLogFormat (given : String)
  deriving DecidableEq

namespace Config

def storePathVariable : String := "PPASS_SNAPSHOT_PATH"

def logFormatVariable : String := "PPASS_LOG_FORMAT"

def default : Config where
  storePath := ".local/snapshot.json"
  logFormat := .text

def storePathOf : Option String → Except ConfigError String
  | none => .ok default.storePath
  | some given =>
      let path := Text.trimmed given
      if path.isEmpty then .error .emptyStorePath else .ok path

def logFormatOf : Option String → Except ConfigError LogFormat
  | none => .ok default.logFormat
  | some given =>
      match LogFormat.ofText? given with
      | some format => .ok format
      | none => .error (.invalidLogFormat given)

/-- Read the settings, where `environment` looks up a variable of the environment. -/
def ofEnvironment (environment : String → Option String) : Except ConfigError Config := do
  let storePath ← storePathOf (environment storePathVariable)
  let logFormat ← logFormatOf (environment logFormatVariable)
  return { storePath, logFormat }

def override (config : Config) (storePath : Option String) (logAsJson : Bool) : Config where
  storePath := storePath.getD config.storePath
  logFormat := if logAsJson then .json else config.logFormat

end Config

def ConfigError.message : ConfigError → String
  | emptyStorePath => Config.storePathVariable ++ " is set but empty"
  | invalidLogFormat given =>
      "invalid " ++ Config.logFormatVariable ++ " " ++ Text.quoted given ++
        ": expected \x22text\x22 or \x22json\x22"

end FilingChecklist
