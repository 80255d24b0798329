import ServiceHost.Duration
import ServiceHost.Process
import ServiceHost.Redaction
import ServiceHost.Text.Quoted
import ServiceHost.World

/-!
Handlers and the stages around them. Three kinds of stage are built in: one gives the request a trace id
and records it, one sets a deadline, and one measures. Every other stage is the caller's own.
-/

namespace ServiceHost

open Http

/-- What all stages of a route know of it. -/
structure RouteArgs where
  method : Method := Method.get
  path : String
  description : String := ""
  traceHeader : HeaderName := HeaderName.requestId
  redactor : Redactor := Redaction.redact
  /-- The span under which the spans of requests are opened. -/
  span : Option Log.Span := none

/-- The inspection of what stages know of a route leaves out the redactor and the span. -/
def RouteArgs.inspect (args : RouteArgs) : String :=
  "MiddlewareArgs \x7b method: " ++ args.method.name ++ ", path: " ++ Text.quoted args.path ++
    ", description: " ++ Text.quoted args.description ++ ", trace_header: " ++
    Text.quoted args.traceHeader.text ++ ", .. \x7d"

/-- A request as it reaches a handler. The context is the handler's own copy. -/
structure Call where
  world : World
  context : Context
  request : Request

/-- A handler answers calls. -/
abbrev Handler := Call → Process Response

/-- A request as it reaches a stage. The stage may ask for the name of the one behind it; where none is
left, the handler follows. -/
structure Visit where
  world : World
  args : RouteArgs
  following : Option String
  context : Context
  request : Request

/-- What a stage decides about a request: it answers, or it lets the rest of the chain run and looks at
the response that comes back. -/
inductive Verdict where
  | answer (response : Response)
  | proceed (request : Request) (after : Context → Response → Process Response)

/-- A stage of the caller. -/
structure CallerStage where
  name : String
  enter : Visit → Process Verdict

/-- A stage of a pipeline. -/
inductive Stage where
  | logging
  | timeout (limit : Duration)
  | instrument
  | caller (stage : CallerStage)

/-- The name of a stage. -/
def Stage.name : Stage → String
  | .logging => "logging"
  | .timeout _ => "timeout"
  | .instrument => "instrument"
  | .caller stage => stage.name

/-- The inspection of what follows a stage. -/
def Visit.inspectFollowing (visit : Visit) : String :=
  match visit.following with
  | none => "Next(handler)"
  | some name => "Next \x7b middleware: " ++ Text.quoted name ++ ", .. \x7d"

end ServiceHost
