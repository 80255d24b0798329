import ServiceHost.Config
import ServiceHost.Handlers

/-!
The summary of a configuration as one object.
-/

namespace ServiceHost

/-- The whole seconds of a duration and the nanoseconds beyond them. -/
def Duration.json (duration : Duration) : Json :=
  .array [Json.natural duration.seconds, Json.natural duration.subsecondNanos]

/-- The names of default routes. -/
def DefaultRoute.namesJson (routes : List DefaultRoute) : Json :=
  Json.texts (routes.map DefaultRoute.name)

/-- The deadlines by name. -/
def Timeouts.json (timeouts : Timeouts) : Json :=
  .object
    [("request", timeouts.request.json), ("read", timeouts.read.json),
      ("write", timeouts.write.json), ("header", timeouts.header.json),
      ("shutdown", timeouts.shutdown.json)]

/-- The summary of a configuration. What its redactor does is shown on a sample. -/
def Config.summary (config : Config) (sample : String) : Json :=
  let options := config.options
  .object
    [("address", .text options.address), ("host", .text config.address.bindHost),
      ("port", Json.natural config.address.port), ("trace_header", .text config.traceHeader.text),
      ("timeouts", options.timeouts.json),
      ("tls", (options.tls.map fun tls => .array [tls.certificate.json, tls.key.json]).getD .null),
      ("default_routes", DefaultRoute.namesJson config.defaultRoutes),
      ("enabled", DefaultRoute.namesJson (DefaultRoute.all.filter options.enabled)),
      ("overridden", DefaultRoute.namesJson config.overridden),
      ("loggers_disabled", DefaultRoute.namesJson config.loggersDisabled),
      ("ip_provider", .flag options.ipProvider.isSome),
      ("middleware", Json.texts (options.stages.map Stage.name)),
      ("redacted", .text (options.redactor sample)),
      ("logger_disabled", .flag options.loggerDisabled),
      ("fallbacks", .array
        [.flag options.notFound.isSome, .flag options.methodNotAllowed.isSome,
          .flag options.panicHandler.isSome])]

end ServiceHost
