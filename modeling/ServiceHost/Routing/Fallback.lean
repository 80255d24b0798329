import ServiceHost.Config
import ServiceHost.Handlers
import ServiceHost.Pipeline.Run

/-!
Fallbacks: what answers a request that no route answers, because none matches its path, because none that
does has its method, or because the chain of the route panicked.
-/

namespace ServiceHost

open Http

/-- Records the panic with its stack and answers 500. -/
def recordPanic : PanicHandler := fun world context recovered =>
  let answer := Envelope.send world.clock context Status.internalServerError .status
  { answer with entries :=
      ⟨.error, "recovered from handler panic",
        [("trace_id", .text context.traceText), ("panic", .text recovered.message),
          ("stacktrace", .stack recovered.stack)]⟩ :: answer.entries }

/-- Answers 500 with the message of the panic and the context, a bar between them. -/
def showPanic : PanicHandler := fun world context recovered =>
  Envelope.send world.clock context Status.internalServerError
    (.text (recovered.message ++ "|" ++ context.json.compact))

/-- Answers 502 and tells that a stack was captured. -/
def confirmStack : PanicHandler := fun world context recovered =>
  Envelope.send world.clock context Status.badGateway
    (.text (if recovered.stack.isEmpty then "" else "backtrace"))

namespace Config

/-- What the stages of a route know of it. -/
def routeArgs (config : Config) (method : Method) (path description : String) : RouteArgs where
  method
  path
  description
  traceHeader := config.traceHeader
  redactor := config.options.redactor
  span := config.options.span

/-- A fallback is recorded like any route, but no other stage lies around it. -/
def fallbackPipeline (config : Config) (description : String) (handler : Handler) : Pipeline :=
  Assembly.build
    { args := config.routeArgs Method.get "" description
      logging := !config.options.loggerDisabled }
    handler

/-- The pipeline of requests that no route matches. -/
def notFoundPipeline (config : Config) : Pipeline :=
  config.fallbackPipeline "not found"
    (config.options.notFound.getD (Handler.status Status.notFound))

/-- The pipeline of requests whose method no matching route has. -/
def methodNotAllowedPipeline (config : Config) : Pipeline :=
  config.fallbackPipeline "method not allowed"
    (config.options.methodNotAllowed.getD (Handler.status Status.methodNotAllowed))

/-- The handler of panics. -/
def panicHandler (config : Config) : PanicHandler :=
  config.options.panicHandler.getD recordPanic

end Config

end ServiceHost
