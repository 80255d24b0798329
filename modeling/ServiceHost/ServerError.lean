import ServiceHost.Config.Error
import ServiceHost.Duration

/-!
Phases in the life of a service instance, and what can go wrong with one.
-/

namespace ServiceHost

/-- A phase in the life of an instance. An instance never goes back to an earlier one. -/
inductive Phase where
  | created
  | listening
  | running
  | shuttingDown
  | closed
  deriving DecidableEq, Repr, Inhabited

namespace Phase

/-- The place of a phase in the order of life. -/
def rank : Phase → Nat
  | .created => 0
  | .listening => 1
  | .running => 2
  | .shuttingDown => 3
  | .closed => 4

/-- The name of a phase. -/
def label : Phase → String
  | .created => "created"
  | .listening => "listening"
  | .running => "running"
  | .shuttingDown => "shutting down"
  | .closed => "closed"

/-- The inspection of a phase. -/
def inspect : Phase → String
  | .created => "Created"
  | .listening => "Listening"
  | .running => "Running"
  | .shuttingDown => "ShuttingDown"
  | .closed => "Closed"

/-- The phases in order. -/
def all : List Phase := [.created, .listening, .running, .shuttingDown, .closed]

/-- The phase of a name. -/
def ofLabel? (name : String) : Option Phase :=
  all.find? fun phase => phase.label = name

end Phase

/-- What can go wrong with an instance. -/
inductive ServerError where
  | config (error : ConfigError)
  /-- The address could not be bound. -/
  | listener (address cause : String)
  /-- The TLS material is not usable. -/
  | tls (reason : String)
  /-- The serve loop failed. -/
  | serve (cause : String)
  /-- The deadline of a shutdown elapsed before every connection was finished. -/
  | shutdown (limit : Duration)
  /-- The operation is not allowed in the phase. -/
  | invalidState (operation : String) (phase : Phase)
  | taskPanicked (task : String)
  deriving DecidableEq, Repr

namespace ServerError

/-- The name of the kind of an error. -/
def kind : ServerError → String
  | .config error => error.kind
  | .listener _ _ => "Listener"
  | .tls _ => "Tls"
  | .serve _ => "Serve"
  | .shutdown _ => "Shutdown"
  | .invalidState _ _ => "InvalidState"
  | .taskPanicked _ => "TaskPanicked"

/-- The wording of an error. -/
def message : ServerError → String
  | .config error => error.message
  | .listener address cause => "failed to bind listener on " ++ address ++ ": " ++ cause
  | .tls reason => "invalid TLS material: " ++ reason
  | .serve cause => "serve loop failed: " ++ cause
  | .shutdown limit => "graceful shutdown exceeded its deadline of " ++ limit.inspect
  | .invalidState operation phase => "cannot " ++ operation ++ " a server in state " ++ phase.label
  | .taskPanicked task => "server task '" ++ task ++ "' panicked"

/-- What a listener failed of, and the whole message of any other error. -/
def cause : ServerError → String
  | .listener _ cause => cause
  | .tls reason => reason
  | error => error.message

/-- Did the error arise while the listener was opened? -/
def isListener : ServerError → Bool
  | .listener _ _ => true
  | .tls _ => true
  | _ => false

end ServerError

end ServiceHost
