import ServiceHost.Routing.Defaults
import ServiceHost.Routing.Fallback
import ServiceHost.Routing.Table

/-!
Routers. A router is made once from a configuration and the routes of the application; every request
then runs through the pipeline of its route or of a fallback. Panics never leave it.
-/

namespace ServiceHost

open Http Log

/-- The pipeline of a route under a configuration. -/
def Config.routePipeline (config : Config) (route : Route) : Pipeline :=
  Assembly.build
    { args := config.routeArgs route.method route.path route.description
      logging := !config.options.loggerDisabled && !route.loggerDisabled
      timeout := route.timeout.getD config.options.timeouts.request
      shared := config.options.stages
      own := route.stages }
    route.handler

/-- A router. -/
structure Router where
  config : Config
  routes : List Route

/-- How a dispatch ended: with which response, when, in which context, and what happened. -/
structure Dispatch where
  response : Response
  finish : Nat
  context : Context
  events : List Event

/-- The dispatch of a course that returned. -/
def Course.dispatch (course : Course Response) : Dispatch where
  response :=
    match course.outcome with
    | .returned response => response
    | _ => {}
  finish := course.finish
  context := course.context
  events := course.events

namespace Router

/-- The router of a configuration and the routes of the application. -/
def make (config : Config) (routes : List Route) : Router :=
  ⟨config, config.allRoutes routes⟩

/-- The listing of all routes, the default ones first. -/
def listing (router : Router) : List RouteInfo :=
  router.routes.map Route.info

/-- The entry of a route in the table. -/
def entry (router : Router) (route : Route) : Routing.Entry Pipeline :=
  ⟨route.method, Routing.Pattern.ofString route.path, router.config.routePipeline route⟩

/-- The table in routing order. -/
def table (router : Router) : List (Routing.Entry Pipeline) :=
  router.routes.map router.entry

/-- The span of a recovered panic. The one of the recorded request ended with its chain. -/
def panicSpan (context : Context) (request : Request) : Span where
  name := "http_request"
  level := .error
  fields :=
    [("trace_id", .text context.traceText), ("request_method", .text request.method.name),
      ("request_path", .text request.target.path)]

/-- The response with the trace id of a context in its trace header, where there is one. -/
def restoreTrace (args : RouteArgs) (context : Context) (response : Response) : Response :=
  if context.traceText.isEmpty then response
  else tagResponse args.traceHeader context.traceText response

/-- Answers a request whose chain panicked. -/
def recover (router : Router) (args : RouteArgs) (scene : Scene) (request : Request)
    (course : Course Response) (panic : Panic) : Course Response :=
  let world := scene.world
  let scene := { scene with spans := args.span.toList ++ [panicSpan course.context request] }
  let answer := router.config.panicHandler world course.context ⟨panic.message, world.stack⟩
  (Course.returned (restoreTrace args course.context answer.response) course.finish
    course.context).precede (course.events ++ scene.loggedAll course.finish answer.entries)

/-- Runs a request through a pipeline, from a millisecond on. -/
def run (router : Router) (pipeline : Pipeline) (scene : Scene) (now : Nat) (context : Context)
    (request : Request) : Course Response :=
  let course := pipeline.run scene now context request
  match course.outcome with
  | .panicked panic => router.recover pipeline.args scene request course panic
  | _ => course

/-- The response with a list of methods in its `Allow` header. -/
def announce (methods : List Method) (response : Response) : Response :=
  match HeaderValue.ofString? (", ".intercalate (methods.map Method.name)) with
  | none => response
  | some value => response.setHeader HeaderName.allow value

/-- The course of a request through its route or a fallback, from a millisecond on. -/
def course (router : Router) (scene : Scene) (now : Nat) (context : Context) (request : Request) :
    Course Response :=
  match Routing.resolve router.table request.method request.target.path with
  | .found entry parameters =>
    router.run entry.target scene now (context.withParameters parameters) request
  | .notAllowed methods =>
    (router.run router.config.methodNotAllowedPipeline scene now context request).map
      (announce methods)
  | .notFound => router.run router.config.notFoundPipeline scene now context request

/-- Dispatches a request to its route or to a fallback. No deadline lies around it, so that it is never
cut. -/
def dispatch (router : Router) (capture : Capture) (world : World) (context : Context)
    (request : Request) : Dispatch :=
  (router.course { capture, world } 0 context request).dispatch

/-- The inspection of a router. -/
def inspect (router : Router) : String :=
  "Router \x7b routes: [" ++ ", ".intercalate (router.listing.map RouteInfo.inspect) ++ "], .. \x7d"

end Router

end ServiceHost
