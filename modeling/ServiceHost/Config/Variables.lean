import ServiceHost.Config.Builder
import ServiceHost.Config.Error
import ServiceHost.Text.Blank
import ServiceHost.Text.Decimal
import ServiceHost.Text.Pieces

/-!
Options from environment variables. Five variables are known; one that is not set leaves its option
alone. The first variable that cannot be read decides the error, in the order in which they stand here.
-/

namespace ServiceHost

/-- A variable that sets an option. -/
inductive Variable where
  | address
  | traceHeader
  | shutdownTimeout
  | requestTimeout
  | defaultRoutes
  deriving DecidableEq, Repr

namespace Variable

/-- All variables in the order in which they are read. -/
def all : List Variable :=
  [.address, .traceHeader, .shutdownTimeout, .requestTimeout, .defaultRoutes]

/-- The name of a variable. -/
def name : Variable → String
  | .address => "PORTICO_ADDRESS"
  | .traceHeader => "PORTICO_TRACE_HEADER"
  | .shutdownTimeout => "PORTICO_SHUTDOWN_TIMEOUT_SECS"
  | .requestTimeout => "PORTICO_REQUEST_TIMEOUT_SECS"
  | .defaultRoutes => "PORTICO_DEFAULT_ROUTES"

/-- The duration of a number of seconds below two to the sixty-fourth, with blanks around it. -/
def readSeconds (text : String) : Except String Duration :=
  match Text.readNatural Text.wordBound (Text.stripWhere Text.isBlank text.toList) with
  | .ok seconds => .ok (.ofSeconds seconds)
  | .error reason => .error reason.message

/-- The names in a list with commas, blanks around them stripped and blank ones left out. -/
def listedNames (text : String) : List String :=
  ((Text.pieces ',' text.toList).map fun piece =>
    String.ofList (Text.stripWhere Text.isBlank piece)).filter (!·.isEmpty)

/-- The default routes of names. The first unknown one decides the error. -/
def readNames : List String → Except String (List DefaultRoute)
  | [] => .ok []
  | name :: rest =>
    match DefaultRoute.ofName? name with
    | none => .error (DefaultRoute.unknownMessage name)
    | some route => (readNames rest).map (route :: ·)

/-- The default routes that a text names: all of them by one word, or a list. -/
def readRoutes (text : String) : Except String (List DefaultRoute) :=
  if Text.sameAsciiCaseless (Text.strip text) "all" then .ok DefaultRoute.all
  else readNames (listedNames text)

/-- The setting that a variable makes with a text. -/
def read (variable_ : Variable) (text : String) : Except String Setting :=
  match variable_ with
  | .address => .ok (.address text)
  | .traceHeader => .ok (.traceHeader text)
  | .shutdownTimeout => (readSeconds text).map .shutdownTimeout
  | .requestTimeout => (readSeconds text).map .requestTimeout
  | .defaultRoutes => (readRoutes text).map .enable

/-- The settings that variables make, as far as they are set. -/
def readAll (lookup : String → Option String) : List Variable → Except ConfigError (List Setting)
  | [] => .ok []
  | variable_ :: rest =>
    match lookup variable_.name with
    | none => readAll lookup rest
    | some text =>
      match variable_.read text with
      | .error reason => .error (.invalidOption variable_.name reason)
      | .ok setting => (readAll lookup rest).map (setting :: ·)

end Variable

/-- The builder after the settings that environment variables make. -/
def Builder.applyVariables (builder : Builder) (lookup : String → Option String) :
    Except ConfigError Builder :=
  (Variable.readAll lookup Variable.all).map builder.applyAll

end ServiceHost
