import ServiceHost.Log.Settings
import ServiceHost.Metrics.Exposition

/-!
Errors while metrics or the log are set up.
-/

namespace ServiceHost

/-- What could not be set up, and why. -/
inductive TelemetryError where
  | metrics (reason : String)
  | logging (reason : String)
  deriving DecidableEq, Repr

/-- The name of the kind of an error. -/
def TelemetryError.kind : TelemetryError → String
  | .metrics _ => "MetricsInit"
  | .logging _ => "LoggingInit"

/-- The wording of an error. -/
def TelemetryError.message : TelemetryError → String
  | .metrics reason => "failed to initialize metrics: " ++ reason
  | .logging reason => "failed to initialize logging: " ++ reason

/-- The error of a recorder that could not be set up. -/
def Metrics.SetupError.telemetry (error : Metrics.SetupError) : TelemetryError :=
  .metrics error.reason

/-- The error of a log that could not be installed. -/
def Log.Settings.InstallError.telemetry (error : Log.Settings.InstallError) : TelemetryError :=
  .logging error.reason

end ServiceHost
