import ServiceHost.DefaultRoute
import ServiceHost.Pipeline.Stage

/-!
Options of a service. A builder gathers settings in the order in which they are made: most options keep
their last value, sets of default routes grow, and stages are appended.
-/

namespace ServiceHost

/-- What a recovered panic left behind. -/
structure Recovered where
  message : String
  stack : String
  deriving DecidableEq, Repr

/-- Answers a request whose chain panicked. The context is as the panic left it. -/
abbrev PanicHandler := World → Context → Recovered → Envelope.Answer

/-- A certificate chain and its private key, as they stand in their files. -/
structure TlsMaterial where
  certificate : Bytes
  key : Bytes
  deriving DecidableEq, Repr

/-- The inspection of TLS material shows neither of its parts. -/
def TlsMaterial.inspect (material : TlsMaterial) : String :=
  "TlsConfig \x7b cert_pem: " ++ toString material.certificate.length ++
    " bytes, key_pem: \"[REDACTED]\" \x7d"

/-- The deadlines of a service. Zero turns one off. -/
structure Timeouts where
  request : Duration := .ofSeconds 60
  read : Duration := .ofSeconds 60
  write : Duration := .ofSeconds 60
  header : Duration := .ofSeconds 60
  shutdown : Duration := .ofSeconds 30
  deriving DecidableEq, Repr

/-- A handle that services can share. Its clones have its number. -/
structure SharedHandle where
  number : Nat
  deriving DecidableEq, Repr

/-- The options gathered so far. -/
structure Builder where
  address : String := ":8017"
  traceHeader : String := "x-request-id"
  timeouts : Timeouts := {}
  tls : Option TlsMaterial := none
  enabled : DefaultRoute.Set := fun _ => false
  overrides : DefaultRoute → Option Handler := fun _ => none
  loggersDisabled : DefaultRoute.Set := fun _ => false
  ipProvider : Option PublicIp.Provider := none
  redactor : Redactor := Redaction.redact
  stages : List Stage := []
  loggerDisabled : Bool := false
  /-- The wait group to join, if it is not one of the service's own. -/
  waitGroup : Option SharedHandle := none
  /-- The signal to hear, if it is not one of the service's own. -/
  shutdownSignal : Option SharedHandle := none
  span : Option Log.Span := none
  notFound : Option Handler := none
  methodNotAllowed : Option Handler := none
  panicHandler : Option PanicHandler := none

/-- One option with its value. -/
inductive Setting where
  | address (text : String)
  | traceHeader (name : String)
  | requestTimeout (limit : Duration)
  | readTimeout (limit : Duration)
  | writeTimeout (limit : Duration)
  | headerTimeout (limit : Duration)
  | shutdownTimeout (limit : Duration)
  | tls (material : TlsMaterial)
  | enable (routes : List DefaultRoute)
  | override (route : DefaultRoute) (handler : Handler)
  | disableRouteLogger (route : DefaultRoute)
  | ipProvider (provider : PublicIp.Provider)
  | redactor (redactor : Redactor)
  | stages (stages : List Stage)
  | disableLogger
  | waitGroup (handle : SharedHandle)
  | shutdownSignal (handle : SharedHandle)
  | span (span : Log.Span)
  | notFound (handler : Handler)
  | methodNotAllowed (handler : Handler)
  | panicHandler (handler : PanicHandler)

namespace Builder

/-- The builder after one setting. -/
def apply (builder : Builder) (setting : Setting) : Builder :=
  match setting with
  | .address text => { builder with address := text }
  | .traceHeader name => { builder with traceHeader := name }
  | .requestTimeout limit =>
    { builder with timeouts := { builder.timeouts with request := limit } }
  | .readTimeout limit => { builder with timeouts := { builder.timeouts with read := limit } }
  | .writeTimeout limit => { builder with timeouts := { builder.timeouts with write := limit } }
  | .headerTimeout limit => { builder with timeouts := { builder.timeouts with header := limit } }
  | .shutdownTimeout limit =>
    { builder with timeouts := { builder.timeouts with shutdown := limit } }
  | .tls material => { builder with tls := some material }
  | .enable routes => { builder with enabled := DefaultRoute.insertAll builder.enabled routes }
  | .override route handler =>
    { builder with overrides := fun other =>
        if other = route then some handler else builder.overrides other }
  | .disableRouteLogger route =>
    { builder with loggersDisabled := DefaultRoute.insertAll builder.loggersDisabled [route] }
  | .ipProvider provider => { builder with ipProvider := some provider }
  | .redactor redactor => { builder with redactor }
  | .stages stages => { builder with stages := builder.stages ++ stages }
  | .disableLogger => { builder with loggerDisabled := true }
  | .waitGroup handle => { builder with waitGroup := some handle }
  | .shutdownSignal handle => { builder with shutdownSignal := some handle }
  | .span span => { builder with span := some span }
  | .notFound handler => { builder with notFound := some handler }
  | .methodNotAllowed handler => { builder with methodNotAllowed := some handler }
  | .panicHandler handler => { builder with panicHandler := some handler }

/-- The builder after some settings in order. -/
def applyAll (builder : Builder) (settings : List Setting) : Builder :=
  settings.foldl apply builder

@[simp] theorem applyAll_nil (builder : Builder) : builder.applyAll [] = builder := rfl

@[simp] theorem applyAll_cons (builder : Builder) (setting : Setting) (settings : List Setting) :
    builder.applyAll (setting :: settings) = (builder.apply setting).applyAll settings := rfl

theorem applyAll_append (builder : Builder) (first second : List Setting) :
    builder.applyAll (first ++ second) = (builder.applyAll first).applyAll second := by
  simp [applyAll]

/-- The inspection of a builder. -/
def inspect (builder : Builder) : String :=
  "ConfigBuilder \x7b address: " ++ Text.quoted builder.address ++ ", trace_header: " ++
    Text.quoted builder.traceHeader ++ ", default_routes: " ++
    DefaultRoute.inspectSet builder.enabled ++ ", middleware: " ++ toString builder.stages.length ++
    ", .. \x7d"

end Builder

end ServiceHost
