import ServiceHost.Config
import ServiceHost.Profiling
import ServiceHost.Routing.Route

/-!
The default routes as a configuration offers them.
-/

namespace ServiceHost

open Http

/-- Answers with the listing of all routes. -/
def Handler.listing (routes : List RouteInfo) : Handler :=
  Handler.json Status.ok (.object [("routes", .array (routes.map RouteInfo.json))])

/-- The entry of a failed lookup. -/
def lookupEntry (context : Context) (error : LookupError) : Log.Entry :=
  ⟨.warn, "public IP lookup failed",
    [("error", .text error.message), ("trace_id", .text context.traceText)]⟩

/-- Answers with the public address that a provider gives, or with 424 if it gives none. -/
def Handler.publicIp (provider : Option PublicIp.Provider) : Handler := fun call =>
  (provider.getD call.world.publicIp).andThen fun result =>
    match result with
    | .ok address => Handler.text Status.ok address call
    | .error error =>
      (Handler.status Status.failedDependency call).after [.log (lookupEntry call.context error)]

/-- The built-in handler of a default route. -/
def DefaultRoute.builtin (route : DefaultRoute) (config : Config) (listing : List RouteInfo) : Handler :=
  match route with
  | .index => Handler.listing listing
  | .ip => Handler.publicIp config.options.ipProvider
  | .ping => Handler.status Status.ok
  | .status => Handler.status Status.ok
  | .metrics => Handler.status Status.notImplemented
  | .pprof => Profiling.handler

/-- The listing entry of a default route. -/
def DefaultRoute.info (route : DefaultRoute) : RouteInfo :=
  ⟨Method.get, route.path, route.description⟩

/-- The route that a default route becomes under a configuration. -/
def Config.defaultRoute (config : Config) (listing : List RouteInfo) (route : DefaultRoute) : Route where
  path := route.path
  description := route.description
  handler := (config.options.overrides route).getD (route.builtin config listing)
  loggerDisabled := config.options.loggersDisabled route

/-- The enabled default routes, with some listing for the index route, and then the routes of the
application. -/
def Config.assemble (config : Config) (listing : List RouteInfo) (routes : List Route) : List Route :=
  config.defaultRoutes.map (config.defaultRoute listing) ++ routes

/-- All routes. The listing of the index route is empty until they are assembled; then it is theirs. -/
def Config.allRoutes (config : Config) (routes : List Route) : List Route :=
  config.assemble ((config.assemble [] routes).map Route.info) routes

@[simp] theorem Config.info_defaultRoute (config : Config) (listing : List RouteInfo)
    (route : DefaultRoute) : (config.defaultRoute listing route).info = route.info := rfl

theorem Config.map_info_assemble (config : Config) (listing : List RouteInfo) (routes : List Route) :
    (config.assemble listing routes).map Route.info =
      config.defaultRoutes.map DefaultRoute.info ++ routes.map Route.info := by
  simp [assemble, Function.comp_def]

end ServiceHost
