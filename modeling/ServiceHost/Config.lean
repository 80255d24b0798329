import ServiceHost.Address
import ServiceHost.Config.Builder
import ServiceHost.Config.Error

/-!
Configurations: options that were checked. The address is checked before the name of the trace header,
and nothing but the final values of the options counts.
-/

namespace ServiceHost

open Http

/-- Checked options. -/
structure Config where
  options : Builder
  address : Address
  traceHeader : HeaderName

/-- Checks the options. -/
def Builder.build (builder : Builder) : Except ConfigError Config :=
  match Address.ofString builder.address with
  | .error fault => .error (.invalidAddress builder.address fault.message)
  | .ok address =>
    match HeaderName.ofString? builder.traceHeader with
    | none => .error (.invalidOption "trace_header" "invalid HTTP header name")
    | some traceHeader => .ok ⟨builder, address, traceHeader⟩

namespace Config

/-- The enabled default routes in routing order. -/
def defaultRoutes (config : Config) : List DefaultRoute :=
  DefaultRoute.members config.options.enabled

/-- The default routes with a handler of their own, in routing order. -/
def overridden (config : Config) : List DefaultRoute :=
  DefaultRoute.all.filter fun route => (config.options.overrides route).isSome

/-- The default routes that are not recorded, in routing order. -/
def loggersDisabled (config : Config) : List DefaultRoute :=
  DefaultRoute.members config.options.loggersDisabled

/-- The inspection of a configuration. -/
def inspect (config : Config) : String :=
  let options := config.options
  let timeouts := options.timeouts
  let tls :=
    match options.tls with
    | none => "None"
    | some material => "Some(" ++ material.inspect ++ ")"
  "ServerConfig \x7b address: " ++ Text.quoted options.address ++ ", trace_header: " ++
    Text.quoted config.traceHeader.text ++ ", request_timeout: " ++ timeouts.request.inspect ++
    ", read_timeout: " ++ timeouts.read.inspect ++ ", write_timeout: " ++ timeouts.write.inspect ++
    ", header_timeout: " ++ timeouts.header.inspect ++ ", shutdown_timeout: " ++
    timeouts.shutdown.inspect ++ ", tls: " ++ tls ++ ", default_routes: " ++
    DefaultRoute.inspectSet options.enabled ++ ", middleware: " ++ toString options.stages.length ++
    ", logger_disabled: " ++ toString options.loggerDisabled ++ ", .. \x7d"

end Config

end ServiceHost
