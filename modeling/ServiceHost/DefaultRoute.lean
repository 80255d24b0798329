import ServiceHost.Text.Fold

/-!
The operational routes that a service can offer by itself. All of them are off until they are enabled.
-/

namespace ServiceHost

/-- A default route. -/
inductive DefaultRoute where
  | index
  | ip
  | ping
  | status
  | metrics
  | pprof
  deriving DecidableEq, Repr

namespace DefaultRoute

/-- All default routes in routing order. -/
def all : List DefaultRoute := [.index, .ip, .ping, .status, .metrics, .pprof]

theorem mem_all (route : DefaultRoute) : route ∈ all := by
  cases route <;> decide

/-- The name of a default route. -/
def name : DefaultRoute → String
  | .index => "index"
  | .ip => "ip"
  | .ping => "ping"
  | .status => "status"
  | .metrics => "metrics"
  | .pprof => "pprof"

/-- The path pattern of a default route. -/
def path : DefaultRoute → String
  | .index => "/"
  | .ip => "/ip"
  | .ping => "/ping"
  | .status => "/status"
  | .metrics => "/metrics"
  | .pprof => "/pprof/\x7b*option\x7d"

/-- The description of a default route in the listing. -/
def description : DefaultRoute → String
  | .index => "List all routes"
  | .ip => "Public IP address of this service"
  | .ping => "Ping this service"
  | .status => "Health status of this service"
  | .metrics => "Metrics of this service"
  | .pprof => "Runtime profiling data"

/-- The inspection of a default route. -/
def inspect : DefaultRoute → String
  | .index => "Index"
  | .ip => "Ip"
  | .ping => "Ping"
  | .status => "Status"
  | .metrics => "Metrics"
  | .pprof => "Pprof"

/-- The default route of a name, in any ASCII case. -/
def ofName? (name : String) : Option DefaultRoute :=
  all.find? fun route => Text.sameAsciiCaseless route.name name

/-- What is said of a name that no default route has. -/
def unknownMessage (name : String) : String :=
  "unknown default route '" ++ name ++ "'"

@[simp] theorem ofName?_name (route : DefaultRoute) : ofName? route.name = some route := by
  cases route <;> decide

/-- A set of default routes. -/
abbrev Set := DefaultRoute → Bool

/-- The members of a set in routing order. -/
def members (set : Set) : List DefaultRoute :=
  all.filter set

/-- The set with some more members. -/
def insertAll (set : Set) (routes : List DefaultRoute) : Set := fun route =>
  set route || routes.contains route

/-- The inspection of a set. -/
def inspectSet (set : Set) : String :=
  "\x7b" ++ ", ".intercalate ((members set).map inspect) ++ "\x7d"

end DefaultRoute

end ServiceHost
