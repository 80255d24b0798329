import ServiceHost.Lifecycle.Service

/-!
The atomic steps of a service and what they do outside of it: a step may trigger a signal that the service
holds, join or leave its wait group, and say something.
-/

namespace ServiceHost

open Lifecycle

/-- What a step does outside of its service. -/
inductive Service.Effect where
  | trigger (signal : Signal)
  | join
  | leave
  | say (entry : Log.Entry)
  deriving DecidableEq, Repr

/-- One atomic step: of a caller, of a call, of a worker, of a connection. -/
inductive Service.Action where
  | callStart
  | callShutdown (limit : Duration)
  | callWait
  | start (call : Nat)
  | shutdown (call : Nat)
  /-- The deadline of a shutdown elapses. -/
  | expire (call : Nat)
  /-- A caller gives up a shutdown that waits. -/
  | abandonShutdown (call : Nat)
  | take (wait : Nat)
  | join (wait : Nat) (worker : Worker)
  | endWait (wait : Nat)
  /-- A caller gives up a call that waits for workers. -/
  | abandonWait (wait : Nat)
  /-- The cancellation that the service was started with completes. -/
  | hearCancellation
  | hearSignal
  | hearStop
  | panicWatcher
  | abortWatcher
  | endWatcher
  /-- The acceptor goes on in the only way open to it. -/
  | advance
  | accept
  /-- A connection fails before it is accepted. -/
  | skip
  | park
  | wake
  | failAcceptor (cause : String)
  | panicAcceptor
  | abortAcceptor
  | register (connection : Nat)
  | drop (connection : Nat)
  | dispatch (connection : Nat)
  | finish (connection : Nat)
  | cut (connection : Nat)
  deriving DecidableEq, Repr

namespace Service

/-- What a service says, with the particulars. -/
def say (level : Log.Level) (message : String) (fields : Log.Fields) : Effect :=
  .say ⟨level, message, fields⟩

/-- The next step of a call that starts the service. -/
def stepStart (service : Service) (call : Nat) : StartPlace → Option (Service × List Effect)
  | .called =>
    if service.stateLocked then none
    else if service.phase = .listening ∧ service.socket = .held then
      some ({ service with socket := .carried }.moveStart call .claimed, [])
    else some (service.moveStart call (.refused service.phase), [])
  | .claimed => some ({ service with handle := .armed }.moveStart call .armed, [])
  | .armed => some (service.moveStart call .joined, [.join])
  | .joined => some ({ service with phase := .running }.moveStart call .running, [])
  | .running =>
    if service.poolLocked then none
    else
      some ({ service with watcher := .watching, pool := service.pool ++ [Worker.watcher] }.moveStart call
        .watching, [])
  | .watching =>
    some ({ service with
      acceptor := .spawned
      socket := .serving
      pool := service.pool ++ [Worker.acceptor] }.moveStart call .started, [say .info "server started" []])
  | .started => none
  | .refused _ => none

/-- What a shutdown says at its end. -/
def farewell (limit : Duration) (drained : Bool) : Effect :=
  if drained then say .info "server stopped" []
  else
    say .warn "server stopped with open connections"
      [("error", .text (ServerError.shutdown limit).message)]

/-- The next step of a call that shuts the service down within a limit. -/
def stepShutdown (service : Service) (call : Nat) (limit : Duration) :
    ShutdownPlace → Option (Service × List Effect)
  | .called =>
    if service.stateLocked then none
    else if service.phase = .shuttingDown ∨ service.phase = .closed then
      some (service.moveShutdown call .repeated,
        [say .debug "shutdown already requested" [("state", .text service.phase.label)]])
    else
      some ({ service with phase := .shuttingDown }.moveShutdown call
        (.latched (service.phase == Phase.running)), [])
  | .latched started => some (service.moveShutdown call (.stopping started), [.trigger .stop])
  | .stopping true =>
    if service.acceptorDone then
      some ({ service with handle := .taken }.moveShutdown call .draining, [])
    else none
  | .stopping false =>
    some ({ service with
      socket := if service.socket = Socket.held then Socket.released else service.socket }.moveShutdown call
        (.settled false true), [])
  | .draining =>
    if service.isDrained then some (service.moveShutdown call (.settled true true), []) else none
  | .expired => some (service.moveShutdown call (.settled true false), [.trigger .forceClose])
  | .settled started drained =>
    if service.stateLocked then none
    else some ({ service with phase := .closed }.moveShutdown call (.closed started drained), [])
  | .closed started drained =>
    some (service.moveShutdown call (.left drained), if started then [.leave] else [])
  | .left drained =>
    some (service.moveShutdown call (.returned drained), [farewell limit drained])
  | .returned _ => none
  | .repeated => none
  | .abandoned => none

/-- The watcher shuts the service down for a reason. -/
def alarm (service : Service) (reason : String) : Option (Service × List Effect) :=
  if service.watcher = .watching then
    some ({ service with
      watcher := .shutting service.shutdowns.length
      shutdowns := service.shutdowns ++ [{ limit := service.limit, byWatcher := true }] },
      [say .debug reason []])
  else none

/-- What a worker that panicked says. -/
def alas (worker : Worker) : Effect :=
  say .error "server task panicked" [("task", .text worker.name)]

/-- The service after its acceptor let go of the socket. -/
def release (service : Service) (acceptor : Acceptor) : Service :=
  { service with socket := .released, acceptor }

/-- The next step of the acceptor where there is only one. -/
def stepAcceptor (service : Service) : Option (Service × List Effect) :=
  match service.acceptor with
  | .spawned => some ({ service with acceptor := .checking }, [])
  | .checking =>
    some ({ service with acceptor := if service.stop then .leaving .finished else .polling }, [])
  | .leaving .finished =>
    some (service.release (.released .finished), [say .info "listener closed" []])
  | .leaving (.failed cause) =>
    some (service.release (.released (.failed cause)),
      [say .error "serve loop stopped unexpectedly" [("error", .text cause)]])
  | .leaving ending => some (service.release (.released ending), [])
  | .released ending =>
    some ({ service with acceptorDone := true, acceptor := .ended ending }, [])
  | .unwinding .panicked => some (service.release (.ended .panicked), [alas .acceptor])
  | .unwinding ending => some (service.release (.ended ending), [])
  | _ => none

/-- The service after its acceptor moved on, if it was polling. -/
def fromPolling (service : Service) (next : Service) : Option (Service × List Effect) :=
  if service.acceptor = .polling then some (next, []) else none

/-- What one atomic step makes of a service that has found its signals, if the step can be taken. The
shared signal was triggered or not. -/
def act (signalled : Bool) (service : Service) : Action → Option (Service × List Effect)
  | .callStart => some ({ service with starts := service.starts ++ [.called] }, [])
  | .callShutdown limit => some ({ service with shutdowns := service.shutdowns ++ [{ limit := limit }] }, [])
  | .callWait => some ({ service with waits := service.waits ++ [{}] }, [])
  | .start call => service.starts[call]?.bind (service.stepStart call)
  | .shutdown call =>
    service.shutdowns[call]?.bind fun request => service.stepShutdown call request.limit request.place
  | .expire call =>
    match service.shutdowns[call]? with
    | some request =>
      if request.place.waits then some (service.moveShutdown call .expired, []) else none
    | none => none
  | .abandonShutdown call =>
    match service.shutdowns[call]? with
    | some request =>
      if request.place.waits && !request.byWatcher then
        some (service.moveShutdown call .abandoned, [])
      else none
    | none => none
  | .take wait =>
    match service.waits[wait]? with
    | some call =>
      if call.place = .called ∧ !service.poolLocked then
        some ({ service with pool := [] }.putWait wait
          { call with place := .joining, pending := service.pool }, [])
      else none
    | none => none
  | .join wait worker =>
    match service.waits[wait]?, service.ending? worker with
    | some call, some ending =>
      if call.place = .joining ∧ worker ∈ call.pending then
        some (service.putWait wait
          { call with pending := call.pending.erase worker, joined := call.joined ++ [(worker, ending)] }, [])
      else none
    | _, _ => none
  | .endWait wait =>
    match service.waits[wait]? with
    | some call =>
      if call.place = .joining ∧ call.pending = [] then
        some (service.putWait wait { call with place := .returned }, [])
      else none
    | none => none
  | .abandonWait wait =>
    match service.waits[wait]? with
    | some call =>
      if call.place = .joining then
        some ({ service with aborting := service.aborting ++ call.pending }.putWait wait
          { call with place := .abandoned, pending := [] }, [])
      else none
    | none => none
  | .hearCancellation => service.alarm "cancellation received"
  | .hearSignal => if signalled then service.alarm "shared shutdown signal received" else none
  | .hearStop =>
    if service.watcher = .watching ∧ service.stop then
      some ({ service with watcher := .ended .finished }, [])
    else none
  | .panicWatcher =>
    if service.watcher = .watching then
      some ({ service with watcher := .ended .panicked }, [alas .watcher])
    else none
  | .abortWatcher =>
    if .watcher ∈ service.aborting then
      match service.watcher with
      | .watching => some ({ service with watcher := .ended .aborted }, [])
      | .shutting call =>
        if (service.shutdownPlace? call).any ShutdownPlace.waits then
          some ({ service with watcher := .ended .aborted }.moveShutdown call .abandoned, [])
        else none
      | _ => none
    else none
  | .endWatcher =>
    match service.watcher with
    | .shutting call =>
      if (service.shutdownPlace? call).any ShutdownPlace.isOver then
        some ({ service with watcher := .ended .finished }, [])
      else none
    | _ => none
  | .advance => service.stepAcceptor
  | .accept =>
    service.fromPolling
      { service with acceptor := .checking, connections := service.connections ++ [.accepted] }
  | .skip => service.fromPolling { service with acceptor := .checking }
  | .park => service.fromPolling { service with acceptor := .parked }
  | .wake =>
    if service.acceptor = .parked then some ({ service with acceptor := .checking }, []) else none
  | .failAcceptor cause =>
    service.fromPolling { service with acceptor := .leaving (.failed cause) }
  | .panicAcceptor =>
    service.fromPolling { service with acceptor := .unwinding .panicked, acceptorDone := true }
  | .abortAcceptor =>
    if .acceptor ∈ service.aborting then
      match service.acceptor with
      | .spawned => some (service.release (.ended .aborted), [])
      | .parked =>
        some ({ service with acceptor := .unwinding .aborted, acceptorDone := true }, [])
      | _ => none
    else none
  | .register connection =>
    match service.connections[connection]? with
    | some .accepted =>
      some (service.putConnection connection
        (if service.handle = .armed then .registered 0 else .dropped), [])
    | _ => none
  | .drop connection =>
    match service.connections[connection]? with
    | some .accepted => some (service.putConnection connection .dropped, [])
    | _ => none
  | .dispatch connection =>
    match service.connections[connection]? with
    | some (.registered requests) =>
      some (service.putConnection connection (.registered (requests + 1)), [])
    | _ => none
  | .finish connection =>
    match service.connections[connection]? with
    | some (.registered requests) => some (service.putConnection connection (.finished requests), [])
    | _ => none
  | .cut connection =>
    match service.connections[connection]? with
    | some (.registered requests) =>
      if service.forceClose then some (service.putConnection connection (.cut requests), []) else none
    | _ => none

/-- The service after an effect of its own: it finds a signal triggered that it triggered itself. -/
def hear (service : Service) : Effect → Service
  | .trigger .stop => { service with stop := true }
  | .trigger .forceClose => { service with forceClose := true }
  | _ => service

/-- One atomic step, if it can be taken, with its effects. -/
def step (signalled : Bool) (service : Service) (action : Action) : Option (Service × List Effect) :=
  (service.act signalled action).map fun taken => (taken.2.foldl hear taken.1, taken.2)

end Service

end ServiceHost
