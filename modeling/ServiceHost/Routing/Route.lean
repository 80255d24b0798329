import ServiceHost.Pipeline.Stage

/-!
Routes that an application binds, and how they are listed.
-/

namespace ServiceHost

open Http

/-- A route: a method, a path pattern, a handler, and the stages and settings that are its own. A timeout
of its own takes the place of the common one, and zero means none. -/
structure Route where
  method : Method := Method.get
  path : String
  description : String := ""
  handler : Handler
  stages : List Stage := []
  timeout : Option Duration := none
  loggerDisabled : Bool := false

/-- A route as the listing shows it. -/
structure RouteInfo where
  method : Method
  path : String
  description : String
  deriving DecidableEq, Repr

/-- The entry of a route in the listing. -/
def Route.info (route : Route) : RouteInfo :=
  ⟨route.method, route.path, route.description⟩

/-- The inspection of a route leaves out the handler. -/
def Route.inspect (route : Route) : String :=
  let timeout :=
    match route.timeout with
    | none => "None"
    | some limit => "Some(" ++ limit.inspect ++ ")"
  "Route \x7b method: " ++ route.method.name ++ ", path: " ++ Text.quoted route.path ++
    ", description: " ++ Text.quoted route.description ++ ", middleware: " ++
    toString route.stages.length ++ ", timeout: " ++ timeout ++ ", logger_disabled: " ++
    toString route.loggerDisabled ++ ", .. \x7d"

/-- The listing entry as an object. -/
def RouteInfo.json (info : RouteInfo) : Json :=
  .object
    [("method", .text info.method.name), ("path", .text info.path),
      ("description", .text info.description)]

/-- The inspection of a listing entry. -/
def RouteInfo.inspect (info : RouteInfo) : String :=
  "RouteInfo \x7b method: " ++ Text.quoted info.method.name ++ ", path: " ++ Text.quoted info.path ++
    ", description: " ++ Text.quoted info.description ++ " \x7d"

end ServiceHost
