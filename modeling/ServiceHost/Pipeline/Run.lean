import ServiceHost.Pipeline.Course
import ServiceHost.RequestDump
import ServiceHost.Text.Blank
import ServiceHost.Text.Uuid

/-!
Runs of a pipeline. The stages lie around the handler like the skins of an onion: each may look at the
request before the rest of the chain and at the response after it.
-/

namespace ServiceHost

open Http Log

/-- The trace id that a request brings along: the first value of the trace header, if it reads as text
and is not blank, without the blanks at its ends. -/
def Http.Request.traceId? (request : Request) (traceHeader : HeaderName) : Option String :=
  match (request.headerText? traceHeader).map Text.strip with
  | none => none
  | some text => if text.isEmpty then none else some text

/-- The span of a request. -/
def requestSpan (clock : Timestamp) (traceId : String) (context : Context) (request : Request) : Span where
  name := "http_request"
  level := .info
  fields :=
    [("trace_id", .text traceId), ("request_method", .text request.method.name),
      ("request_path", .text request.target.path),
      ("request_query", .text (request.target.query.getD "")),
      ("request_remote_address", .text ((context.remote.map Net.Peer.render).getD "")),
      ("request_user_agent", .text ((request.headerText? HeaderName.userAgent).getD "")),
      ("request_x_forwarded_for", .text ((request.headerText? HeaderName.forwardedFor).getD "")),
      ("request_time", .instant clock 3)]

/-- The entry that closes a recorded request. -/
def completionEntry (dump : Option String) (elapsed : Nat) (response : Response) : Entry where
  level := if response.timedOut then .info else .debug
  message := "request completed"
  fields :=
    (dump.map fun dump => ("request_dump", Value.text dump)).toList ++
      [("response_code", .number response.status.code), ("duration_ms", .elapsed elapsed)] ++
      (if response.timedOut then [("timed_out", .flag true)] else [])

/-- The largest number of milliseconds that a record shows. -/
def largestShownMillis : Nat := Text.wordBound - 1

/-- The entry of a deadline that elapsed. -/
def deadlineEntry (args : RouteArgs) (limit : Duration) : Entry where
  level := .warn
  message := "handler deadline elapsed"
  fields :=
    [("route", .text args.path), ("timeout_ms", .number (min limit.floorMillis largestShownMillis))]

/-- The answer of a deadline. -/
def deadlineAnswer (clock : Timestamp) (context : Context) : Envelope.Answer :=
  let answer := Envelope.send clock context Status.serviceUnavailable (.text "timeout")
  { answer with response := { answer.response with timedOut := true } }

/-- The request with a trace id in its trace header, where the id is a legal value. -/
def tagRequest (traceHeader : HeaderName) (traceId : String) (request : Request) : Request :=
  match HeaderValue.ofString? traceId with
  | none => request
  | some value => request.setHeader traceHeader value

/-- The response with a trace id in its trace header, where the id is a legal value. -/
def tagResponse (traceHeader : HeaderName) (traceId : String) (response : Response) : Response :=
  match HeaderValue.ofString? traceId with
  | none => response
  | some value => response.setHeader traceHeader value

/-- The endpoint under which a route is measured. -/
def RouteArgs.endpoint (args : RouteArgs) : Metrics.Endpoint :=
  ⟨args.method.name, args.path⟩

/-- The scene within a deadline of its own, unless the one around it comes first. -/
def Scene.within (scene : Scene) (deadline : Nat) : Scene :=
  if scene.allows deadline then { scene with deadline := some deadline } else scene

/-- The scene of what a measuring stage lets run: one more request is in flight. -/
def Scene.measured (scene : Scene) : Scene :=
  { scene with world := { scene.world with registry := scene.world.registry.moveGauge 1 } }

/-- The answer of a measured pass, if its course returned one. -/
def Course.answered (course : Course Response) (started : Nat) : Option (Status × Duration) :=
  match course.outcome with
  | .returned response => some (response.status, Duration.ofMillis (course.finish - started))
  | _ => none

/-- What a deadline makes of the course inside it: if the deadline cut it, the answer of the deadline. -/
def Scene.expire (scene : Scene) (args : RouteArgs) (limit : Duration) (inner : Course Response) :
    Course Response :=
  match inner.outcome with
  | .cut =>
    let answer := deadlineAnswer scene.world.clock inner.context
    let entries := deadlineEntry args limit :: answer.entries
    ⟨.returned answer.response, inner.finish, inner.context,
      inner.events ++ scene.loggedAll inner.finish entries⟩
  | _ => inner

/-- Runs the stages and then the handler, from a millisecond on. Ids that a stage makes depend on the
number of stages behind it. -/
def runChain (args : RouteArgs) (handler : Handler) : List Stage → Scene → Nat → Context → Request →
    Course Response
  | [], scene, now, context, request =>
    { scene.run (handler ⟨scene.world, context, request⟩) now context with context }
  | .caller stage :: rest, scene, now, context, request =>
    (scene.run (stage.enter ⟨scene.world, args, (rest.head?.map Stage.name), context, request⟩) now context).andThen
      fun verdict now context =>
        match verdict with
        | .answer response => Course.returned response now context
        | .proceed request after =>
          (runChain args handler rest scene now context request).andThen fun response now context =>
            scene.run (after context response) now context
  | .logging :: rest, scene, now, context, request =>
    let world := scene.world
    let traceId := (request.traceId? args.traceHeader).getD
      (Text.timedId world.clock (world.random rest.length))
    let context := context.withTraceId traceId
    let request := tagRequest args.traceHeader traceId request
    let scene := { scene with
      spans := args.span.toList ++ [requestSpan world.clock traceId context request] }
    let dump :=
      if scene.capture.debugging then some (args.redactor (RequestDump.render request)) else none
    (runChain args handler rest scene now context request).andThen fun response finish context =>
      let response := tagResponse args.traceHeader traceId response
      (Course.returned response finish context).precede
        (scene.logged finish (completionEntry dump (finish - now) response))
  | .timeout limit :: rest, scene, now, context, request =>
    let own := now + limit.timerMillis
    let inner := runChain args handler rest (scene.within own) now context request
    if scene.allows own then scene.expire args limit inner else inner
  | .instrument :: rest, scene, now, context, request =>
    let inner := runChain args handler rest scene.measured now context request
    (inner.precede [⟨now, .began⟩]).follow
      [⟨inner.finish, .ended args.endpoint (inner.answered now)⟩]

/-- A chain of stages around a handler. -/
structure Pipeline where
  args : RouteArgs
  stages : List Stage
  handler : Handler

namespace Pipeline

/-- The names of the stages, the outermost first. -/
def stageNames (pipeline : Pipeline) : List String :=
  pipeline.stages.map Stage.name

/-- Runs a request through the pipeline, from a millisecond on. -/
def run (pipeline : Pipeline) (scene : Scene) (now : Nat) (context : Context) (request : Request) :
    Course Response :=
  runChain pipeline.args pipeline.handler pipeline.stages scene now context request

/-- Runs a request through the pipeline without any deadline around it. -/
def process (pipeline : Pipeline) (capture : Capture) (world : World) (context : Context)
    (request : Request) : Course Response :=
  pipeline.run { capture, world } 0 context request

/-- The inspection of a pipeline. -/
def inspect (pipeline : Pipeline) : String :=
  "Pipeline \x7b args: " ++ pipeline.args.inspect ++ ", stages: " ++
    Text.quotedList pipeline.stageNames ++ ", .. \x7d"

end Pipeline

/-- The parts from which a pipeline is assembled. A timeout of zero means none. -/
structure Assembly where
  args : RouteArgs
  logging : Bool := true
  timeout : Duration := Duration.zero
  shared : List Stage := []
  own : List Stage := []

namespace Assembly

/-- The stages in order: logging, the deadline, those shared by all routes, and those of the route. -/
def stages (assembly : Assembly) : List Stage :=
  (if assembly.logging then [.logging] else []) ++
    (if assembly.timeout.isZero then [] else [.timeout assembly.timeout]) ++
    assembly.shared ++ assembly.own

/-- Assembles the pipeline around a handler. -/
def build (assembly : Assembly) (handler : Handler) : Pipeline :=
  ⟨assembly.args, assembly.stages, handler⟩

/-- The inspection of the parts shows of the caller's stages only how many there are. -/
def inspect (assembly : Assembly) : String :=
  "PipelineBuilder \x7b args: " ++ assembly.args.inspect ++ ", logging: " ++
    toString assembly.logging ++ ", timeout: " ++ assembly.timeout.inspect ++ ", global: " ++
    toString assembly.shared.length ++ ", route: " ++ toString assembly.own.length ++ " \x7d"

end Assembly

end ServiceHost
