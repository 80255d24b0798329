import ServiceHost.Log.Filter
import ServiceHost.Text.Quoted

/-!
Settings of the log and its installation. A process has one log, so that a second installation fails.
-/

namespace ServiceHost.Log

/-- How the log is written. -/
structure Settings where
  enabled : Bool := true
  level : String
  json : Bool
  spanEvents : Bool
  fileAndLine : Bool
  target : Bool := true
  deriving DecidableEq, Repr

namespace Settings

/-- Text for a reader, with everything in it. -/
def development : Settings where
  level := "debug"
  json := false
  spanEvents := true
  fileAndLine := true

/-- One JSON object a line. -/
def production : Settings where
  level := "info"
  json := true
  spanEvents := false
  fileAndLine := false

/-- The inspection of the settings. -/
def inspect (settings : Settings) : String :=
  "LogConfig \x7b enabled: " ++ toString settings.enabled ++ ", level: " ++
    Text.quoted settings.level ++ ", json_format: " ++ toString settings.json ++
    ", span_events: " ++ toString settings.spanEvents ++ ", file_line_info: " ++
    toString settings.fileAndLine ++ ", include_target: " ++ toString settings.target ++ " \x7d"

/-- Why a log could not be installed. -/
inductive InstallError where
  | invalidLevel (filter : String) (fault : Filter.Fault)
  | alreadyInstalled
  deriving DecidableEq, Repr

/-- The reason of a failed installation. -/
def InstallError.reason : InstallError → String
  | .invalidLevel filter fault => "invalid log level '" ++ filter ++ "': " ++ fault.message
  | .alreadyInstalled => "a global default trace dispatcher has already been set"

/-- The directives that settings mean in an environment. -/
def filter (environment : Option String) (level : String) : Except InstallError (List Filter.Directive) :=
  match Filter.choose environment level with
  | .error fault => .error (.invalidLevel level fault)
  | .ok directives => .ok directives

/-- Installs the log, unless it is disabled, and tells whether there is one afterwards. The level is
checked first. -/
def install (settings : Settings) (environment : Option String) (installed : Bool) :
    Except InstallError Bool :=
  if !settings.enabled then .ok installed
  else
    match filter environment settings.level with
    | .error error => .error error
    | .ok _ => if installed then .error .alreadyInstalled else .ok true

end Settings

end ServiceHost.Log
