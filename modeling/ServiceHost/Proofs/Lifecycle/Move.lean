import ServiceHost.Lifecycle.Run

/-!
Moves: everything that one atomic step of a service can do, with what allows it. Each step is a move, so
that a law of all steps is proved move by move.
-/

namespace ServiceHost.Service

open Lifecycle

/-- The service after its watcher called for a shutdown. -/
def alarmed (service : Service) : Service :=
  { service with
    watcher := .shutting service.shutdowns.length
    shutdowns := service.shutdowns ++ [{ limit := service.limit, byWatcher := true }] }

/-- What an acceptor says that leaves by itself. -/
def parting : Ending → List Effect
  | .finished => [say .info "listener closed" []]
  | .failed cause => [say .error "serve loop stopped unexpectedly" [("error", .text cause)]]
  | _ => []

/-- What an acceptor says that was torn down. -/
def lament : Ending → List Effect
  | .panicked => [alas .acceptor]
  | _ => []

/-- A move of a service: the action, the service after it and what was done outside of it. -/
inductive Move (signalled : Bool) (service : Service) : Action → Service → List Effect → Prop where
  | callStart :
      Move signalled service .callStart { service with starts := service.starts ++ [.called] } []
  | callShutdown (limit : Duration) :
      Move signalled service (.callShutdown limit)
        { service with shutdowns := service.shutdowns ++ [{ limit := limit }] } []
  | callWait : Move signalled service .callWait { service with waits := service.waits ++ [{}] } []
  /-- A start takes the socket of a listening service. -/
  | claim {call : Nat} (here : service.starts[call]? = some .called)
      (unlocked : service.stateLocked = false) (listening : service.phase = .listening)
      (held : service.socket = .held) :
      Move signalled service (.start call) ({ service with socket := .carried }.moveStart call .claimed) []
  | refuse {call : Nat} (here : service.starts[call]? = some .called)
      (unlocked : service.stateLocked = false)
      (other : ¬(service.phase = .listening ∧ service.socket = .held)) :
      Move signalled service (.start call) (service.moveStart call (.refused service.phase)) []
  | arm {call : Nat} (here : service.starts[call]? = some .claimed) :
      Move signalled service (.start call) ({ service with handle := .armed }.moveStart call .armed) []
  | join {call : Nat} (here : service.starts[call]? = some .armed) :
      Move signalled service (.start call) (service.moveStart call .joined) [.join]
  | launch {call : Nat} (here : service.starts[call]? = some .joined) :
      Move signalled service (.start call) ({ service with phase := .running }.moveStart call .running) []
  | watch {call : Nat} (here : service.starts[call]? = some .running)
      (unlocked : service.poolLocked = false) :
      Move signalled service (.start call)
        ({ service with
          watcher := .watching, pool := service.pool ++ [Worker.watcher] }.moveStart call .watching) []
  | serve {call : Nat} (here : service.starts[call]? = some .watching) :
      Move signalled service (.start call)
        ({ service with
          acceptor := .spawned
          socket := .serving
          pool := service.pool ++ [Worker.acceptor] }.moveStart call .started)
        [say .info "server started" []]
  /-- The first shutdown of a service. -/
  | latch {call : Nat} {request : ShutdownCall} (here : service.shutdowns[call]? = some request)
      (place : request.place = .called) (unlocked : service.stateLocked = false)
      (early : ¬(service.phase = .shuttingDown ∨ service.phase = .closed)) :
      Move signalled service (.shutdown call)
        ({ service with phase := .shuttingDown }.moveShutdown call
          (.latched (service.phase == Phase.running))) []
  | again {call : Nat} {request : ShutdownCall} (here : service.shutdowns[call]? = some request)
      (place : request.place = .called) (unlocked : service.stateLocked = false)
      (late : service.phase = .shuttingDown ∨ service.phase = .closed) :
      Move signalled service (.shutdown call) (service.moveShutdown call .repeated)
        [say .debug "shutdown already requested" [("state", .text service.phase.label)]]
  | halt {call : Nat} {request : ShutdownCall} {started : Bool}
      (here : service.shutdowns[call]? = some request) (place : request.place = .latched started) :
      Move signalled service (.shutdown call)
        ({ service with stop := true }.moveShutdown call (.stopping started)) [.trigger .stop]
  | drain {call : Nat} {request : ShutdownCall} (here : service.shutdowns[call]? = some request)
      (place : request.place = .stopping true) (ended : service.acceptorDone) :
      Move signalled service (.shutdown call)
        ({ service with handle := .taken }.moveShutdown call .draining) []
  | free {call : Nat} {request : ShutdownCall} (here : service.shutdowns[call]? = some request)
      (place : request.place = .stopping false) :
      Move signalled service (.shutdown call)
        ({ service with
          socket := if service.socket = Socket.held then Socket.released else service.socket }.moveShutdown
            call (.settled false true)) []
  | settle {call : Nat} {request : ShutdownCall} (here : service.shutdowns[call]? = some request)
      (place : request.place = .draining) (drained : service.isDrained) :
      Move signalled service (.shutdown call) (service.moveShutdown call (.settled true true)) []
  | force {call : Nat} {request : ShutdownCall} (here : service.shutdowns[call]? = some request)
      (place : request.place = .expired) :
      Move signalled service (.shutdown call)
        ({ service with forceClose := true }.moveShutdown call (.settled true false)) [.trigger .forceClose]
  | close {call : Nat} {request : ShutdownCall} {started drained : Bool}
      (here : service.shutdowns[call]? = some request) (place : request.place = .settled started drained)
      (unlocked : service.stateLocked = false) :
      Move signalled service (.shutdown call)
        ({ service with phase := .closed }.moveShutdown call (.closed started drained)) []
  | leave {call : Nat} {request : ShutdownCall} {started drained : Bool}
      (here : service.shutdowns[call]? = some request) (place : request.place = .closed started drained) :
      Move signalled service (.shutdown call) (service.moveShutdown call (.left drained))
        (if started then [.leave] else [])
  | giveBack {call : Nat} {request : ShutdownCall} {drained : Bool}
      (here : service.shutdowns[call]? = some request) (place : request.place = .left drained) :
      Move signalled service (.shutdown call) (service.moveShutdown call (.returned drained))
        [farewell request.limit drained]
  | expire {call : Nat} {request : ShutdownCall} (here : service.shutdowns[call]? = some request)
      (waits : request.place.waits) :
      Move signalled service (.expire call) (service.moveShutdown call .expired) []
  | forsake {call : Nat} {request : ShutdownCall} (here : service.shutdowns[call]? = some request)
      (waits : request.place.waits) (byCaller : request.byWatcher = false) :
      Move signalled service (.abandonShutdown call) (service.moveShutdown call .abandoned) []
  | take {wait : Nat} {call : WaitCall} (here : service.waits[wait]? = some call)
      (place : call.place = .called) (unlocked : service.poolLocked = false) :
      Move signalled service (.take wait)
        ({ service with pool := [] }.putWait wait
          { call with place := .joining, pending := service.pool }) []
  | joinWorker {wait : Nat} {worker : Worker} {call : WaitCall} {ending : Ending}
      (here : service.waits[wait]? = some call) (ended : service.ending? worker = some ending)
      (place : call.place = .joining) (member : worker ∈ call.pending) :
      Move signalled service (.join wait worker)
        (service.putWait wait
          { call with pending := call.pending.erase worker, joined := call.joined ++ [(worker, ending)] }) []
  | endWait {wait : Nat} {call : WaitCall} (here : service.waits[wait]? = some call)
      (place : call.place = .joining) (none : call.pending = []) :
      Move signalled service (.endWait wait) (service.putWait wait { call with place := .returned }) []
  | abandonWait {wait : Nat} {call : WaitCall} (here : service.waits[wait]? = some call)
      (place : call.place = .joining) :
      Move signalled service (.abandonWait wait)
        ({ service with aborting := service.aborting ++ call.pending }.putWait wait
          { call with place := .abandoned, pending := [] }) []
  | hearCancellation (watching : service.watcher = .watching) :
      Move signalled service .hearCancellation service.alarmed [say .debug "cancellation received" []]
  | hearSignal (triggered : signalled = true) (watching : service.watcher = .watching) :
      Move signalled service .hearSignal service.alarmed [say .debug "shared shutdown signal received" []]
  | hearStop (watching : service.watcher = .watching) (stopped : service.stop) :
      Move signalled service .hearStop { service with watcher := .ended .finished } []
  | panicWatcher (watching : service.watcher = .watching) :
      Move signalled service .panicWatcher { service with watcher := .ended .panicked } [alas .watcher]
  | abortWatching (told : .watcher ∈ service.aborting) (watching : service.watcher = .watching) :
      Move signalled service .abortWatcher { service with watcher := .ended .aborted } []
  /-- The shutdown that the watcher called for is abandoned with it. -/
  | abortShutting {call : Nat} {request : ShutdownCall} (told : .watcher ∈ service.aborting)
      (shutting : service.watcher = .shutting call) (here : service.shutdowns[call]? = some request)
      (waits : request.place.waits) :
      Move signalled service .abortWatcher
        ({ service with watcher := .ended .aborted }.moveShutdown call .abandoned) []
  | endWatcher {call : Nat} {request : ShutdownCall} (shutting : service.watcher = .shutting call)
      (here : service.shutdowns[call]? = some request) (ended : request.place.isOver) :
      Move signalled service .endWatcher { service with watcher := .ended .finished } []
  | begin (spawned : service.acceptor = .spawned) :
      Move signalled service .advance { service with acceptor := .checking } []
  /-- The acceptor looks at the stop signal. -/
  | look (checking : service.acceptor = .checking) :
      Move signalled service .advance
        { service with acceptor := if service.stop then .leaving .finished else .polling } []
  | release {ending : Ending} (leaving : service.acceptor = .leaving ending) :
      Move signalled service .advance (service.release (.released ending)) (parting ending)
  | mark {ending : Ending} (released : service.acceptor = .released ending) :
      Move signalled service .advance
        { service with acceptorDone := true, acceptor := .ended ending } []
  | unwind {ending : Ending} (unwinding : service.acceptor = .unwinding ending) :
      Move signalled service .advance (service.release (.ended ending)) (lament ending)
  | accept (polling : service.acceptor = .polling) :
      Move signalled service .accept
        { service with acceptor := .checking, connections := service.connections ++ [.accepted] } []
  | skip (polling : service.acceptor = .polling) :
      Move signalled service .skip { service with acceptor := .checking } []
  | park (polling : service.acceptor = .polling) :
      Move signalled service .park { service with acceptor := .parked } []
  | wake (parked : service.acceptor = .parked) :
      Move signalled service .wake { service with acceptor := .checking } []
  | fail (cause : String) (polling : service.acceptor = .polling) :
      Move signalled service (.failAcceptor cause) { service with acceptor := .leaving (.failed cause) } []
  | panicAcceptor (polling : service.acceptor = .polling) :
      Move signalled service .panicAcceptor
        { service with acceptor := .unwinding .panicked, acceptorDone := true } []
  | abortSpawned (told : .acceptor ∈ service.aborting) (spawned : service.acceptor = .spawned) :
      Move signalled service .abortAcceptor (service.release (.ended .aborted)) []
  | abortParked (told : .acceptor ∈ service.aborting) (parked : service.acceptor = .parked) :
      Move signalled service .abortAcceptor
        { service with acceptor := .unwinding .aborted, acceptorDone := true } []
  | register {number : Nat} (here : service.connections[number]? = some .accepted)
      (armed : service.handle = .armed) :
      Move signalled service (.register number) (service.putConnection number (.registered 0)) []
  /-- No handle is armed when a connection comes to register. -/
  | reject {number : Nat} (here : service.connections[number]? = some .accepted)
      (unarmed : service.handle ≠ .armed) :
      Move signalled service (.register number) (service.putConnection number .dropped) []
  | drop {number : Nat} (here : service.connections[number]? = some .accepted) :
      Move signalled service (.drop number) (service.putConnection number .dropped) []
  | dispatch {number requests : Nat} (here : service.connections[number]? = some (.registered requests)) :
      Move signalled service (.dispatch number)
        (service.putConnection number (.registered (requests + 1))) []
  | finish {number requests : Nat} (here : service.connections[number]? = some (.registered requests)) :
      Move signalled service (.finish number) (service.putConnection number (.finished requests)) []
  | cut {number requests : Nat} (here : service.connections[number]? = some (.registered requests))
      (forced : service.forceClose) :
      Move signalled service (.cut number) (service.putConnection number (.cut requests)) []

variable {signalled : Bool} {before after : Service} {effects : List Effect} {call : Nat}

theorem move_of_stepStart {place : StartPlace} (here : before.starts[call]? = some place)
    (taken : before.stepStart call place = some (after, effects)) :
    Move signalled before (.start call) (effects.foldl hear after) effects := by
  cases place with
  | called =>
    simp only [stepStart] at taken
    split at taken
    · cases taken
    · rename_i unlocked
      rw [Bool.not_eq_true] at unlocked
      split at taken
      · rename_i ready
        cases taken
        exact .claim here unlocked ready.1 ready.2
      · rename_i other
        cases taken
        exact .refuse here unlocked other
  | claimed => cases taken; exact .arm here
  | armed => cases taken; exact .join here
  | joined => cases taken; exact .launch here
  | running =>
    simp only [stepStart] at taken
    split at taken
    · cases taken
    · rename_i unlocked
      rw [Bool.not_eq_true] at unlocked
      cases taken
      exact .watch here unlocked
  | watching => cases taken; exact .serve here
  | started => cases taken
  | refused phase => cases taken

theorem move_of_stepShutdown {request : ShutdownCall} (here : before.shutdowns[call]? = some request)
    (taken : before.stepShutdown call request.limit request.place = some (after, effects)) :
    Move signalled before (.shutdown call) (effects.foldl hear after) effects := by
  generalize place : request.place = point at taken
  cases point with
  | called =>
    simp only [stepShutdown] at taken
    split at taken
    · cases taken
    · rename_i unlocked
      rw [Bool.not_eq_true] at unlocked
      split at taken
      · rename_i late
        cases taken
        exact .again here place unlocked late
      · rename_i early
        cases taken
        exact .latch here place unlocked early
  | latched started => cases taken; exact .halt here place
  | stopping started =>
    cases started with
    | true =>
      simp only [stepShutdown] at taken
      split at taken
      · rename_i ended
        cases taken
        exact .drain here place ended
      · cases taken
    | false => cases taken; exact .free here place
  | draining =>
    simp only [stepShutdown] at taken
    split at taken
    · rename_i drained
      cases taken
      exact .settle here place drained
    · cases taken
  | expired => cases taken; exact .force here place
  | settled started drained =>
    simp only [stepShutdown] at taken
    split at taken
    · cases taken
    · rename_i unlocked
      rw [Bool.not_eq_true] at unlocked
      cases taken
      exact .close here place unlocked
  | closed started drained =>
    cases taken
    cases started with
    | true => exact .leave here place
    | false => exact .leave here place
  | left drained =>
    cases taken
    cases drained with
    | true => exact .giveBack here place
    | false => exact .giveBack here place
  | returned drained => cases taken
  | repeated => cases taken
  | abandoned => cases taken

theorem move_of_stepAcceptor (taken : before.stepAcceptor = some (after, effects)) :
    Move signalled before .advance (effects.foldl hear after) effects := by
  unfold stepAcceptor at taken
  split at taken
  · rename_i spawned
    cases taken
    exact .begin spawned
  · rename_i checking
    cases taken
    exact .look checking
  · rename_i leaving
    cases taken
    exact .release leaving
  · rename_i cause leaving
    cases taken
    exact .release leaving
  · rename_i ending notFinished notFailed leaving
    cases taken
    have silent : parting ending = [] := by
      cases ending with
      | finished => exact absurd rfl notFinished
      | failed cause => exact absurd rfl (notFailed cause)
      | panicked => rfl
      | aborted => rfl
    have moved : Move signalled before .advance (before.release (.released ending)) (parting ending) :=
      .release leaving
    rwa [silent] at moved
  · rename_i ending released
    cases taken
    exact .mark released
  · rename_i unwinding
    cases taken
    exact .unwind unwinding
  · rename_i ending notPanicked unwinding
    cases taken
    have silent : lament ending = [] := by
      cases ending with
      | panicked => exact absurd rfl notPanicked
      | finished | failed | aborted => rfl
    have moved : Move signalled before .advance (before.release (.ended ending)) (lament ending) :=
      .unwind unwinding
    rwa [silent] at moved
  · cases taken

/-- A polling acceptor moves on. -/
theorem polling_of_fromPolling {next : Service} (taken : before.fromPolling next = some (after, effects)) :
    before.acceptor = .polling ∧ next = after ∧ effects = [] := by
  unfold fromPolling at taken
  split at taken
  · rename_i polling
    cases taken
    exact ⟨polling, rfl, rfl⟩
  · cases taken

/-- A watching watcher calls for a shutdown. -/
theorem watching_of_alarm {reason : String} (taken : before.alarm reason = some (after, effects)) :
    before.watcher = .watching ∧ before.alarmed = after ∧ effects = [say .debug reason []] := by
  unfold alarm at taken
  split at taken
  · rename_i watching
    cases taken
    exact ⟨watching, rfl, rfl⟩
  · cases taken

/-- What an action makes of a service is a move, once the service hears what it triggered itself. -/
theorem move_of_act {action : Action} (taken : before.act signalled action = some (after, effects)) :
    Move signalled before action (effects.foldl hear after) effects := by
  cases action with
  | callStart => cases taken; exact .callStart
  | callShutdown limit => cases taken; exact .callShutdown limit
  | callWait => cases taken; exact .callWait
  | start call =>
    obtain ⟨place, here, taken⟩ := Option.bind_eq_some_iff.mp taken
    exact move_of_stepStart here taken
  | shutdown call =>
    obtain ⟨request, here, taken⟩ := Option.bind_eq_some_iff.mp taken
    exact move_of_stepShutdown here taken
  | expire call =>
    simp only [act] at taken
    split at taken
    · rename_i request here
      split at taken
      · rename_i waits
        cases taken
        exact .expire here waits
      · cases taken
    · cases taken
  | abandonShutdown call =>
    simp only [act] at taken
    split at taken
    · rename_i request here
      split at taken
      · rename_i allowed
        rw [Bool.and_eq_true, Bool.not_eq_true'] at allowed
        cases taken
        exact .forsake here allowed.1 allowed.2
      · cases taken
    · cases taken
  | take wait =>
    simp only [act] at taken
    split at taken
    · rename_i call here
      split at taken
      · rename_i allowed
        rw [Bool.not_eq_true'] at allowed
        cases taken
        exact .take here allowed.1 allowed.2
      · cases taken
    · cases taken
  | join wait worker =>
    simp only [act] at taken
    split at taken
    · rename_i call ending here ended
      split at taken
      · rename_i allowed
        cases taken
        exact .joinWorker here ended allowed.1 allowed.2
      · cases taken
    · cases taken
  | endWait wait =>
    simp only [act] at taken
    split at taken
    · rename_i call here
      split at taken
      · rename_i allowed
        cases taken
        exact .endWait here allowed.1 allowed.2
      · cases taken
    · cases taken
  | abandonWait wait =>
    simp only [act] at taken
    split at taken
    · rename_i call here
      split at taken
      · rename_i place
        cases taken
        exact .abandonWait here place
      · cases taken
    · cases taken
  | hearCancellation =>
    obtain ⟨watching, rfl, rfl⟩ := watching_of_alarm taken
    exact .hearCancellation watching
  | hearSignal =>
    simp only [act] at taken
    split at taken
    · rename_i triggered
      obtain ⟨watching, rfl, rfl⟩ := watching_of_alarm taken
      exact .hearSignal triggered watching
    · cases taken
  | hearStop =>
    simp only [act] at taken
    split at taken
    · rename_i allowed
      cases taken
      exact .hearStop allowed.1 allowed.2
    · cases taken
  | panicWatcher =>
    simp only [act] at taken
    split at taken
    · rename_i watching
      cases taken
      exact .panicWatcher watching
    · cases taken
  | abortWatcher =>
    simp only [act] at taken
    split at taken
    · rename_i told
      split at taken
      · rename_i watching
        cases taken
        exact .abortWatching told watching
      · rename_i call shutting
        split at taken
        · rename_i waits
          obtain ⟨place, found, waits⟩ := (Option.any_eq_true _ _).mp waits
          obtain ⟨request, here, rfl⟩ := Option.map_eq_some_iff.mp found
          cases taken
          exact .abortShutting told shutting here waits
        · cases taken
      · cases taken
    · cases taken
  | endWatcher =>
    simp only [act] at taken
    split at taken
    · rename_i call shutting
      split at taken
      · rename_i ended
        obtain ⟨place, found, ended⟩ := (Option.any_eq_true _ _).mp ended
        obtain ⟨request, here, rfl⟩ := Option.map_eq_some_iff.mp found
        cases taken
        exact .endWatcher shutting here ended
      · cases taken
    · cases taken
  | advance => exact move_of_stepAcceptor taken
  | accept =>
    obtain ⟨polling, rfl, rfl⟩ := polling_of_fromPolling taken
    exact .accept polling
  | skip =>
    obtain ⟨polling, rfl, rfl⟩ := polling_of_fromPolling taken
    exact .skip polling
  | park =>
    obtain ⟨polling, rfl, rfl⟩ := polling_of_fromPolling taken
    exact .park polling
  | wake =>
    simp only [act] at taken
    split at taken
    · rename_i parked
      cases taken
      exact .wake parked
    · cases taken
  | failAcceptor cause =>
    obtain ⟨polling, rfl, rfl⟩ := polling_of_fromPolling taken
    exact .fail cause polling
  | panicAcceptor =>
    obtain ⟨polling, rfl, rfl⟩ := polling_of_fromPolling taken
    exact .panicAcceptor polling
  | abortAcceptor =>
    simp only [act] at taken
    split at taken
    · rename_i told
      split at taken
      · rename_i spawned
        cases taken
        exact .abortSpawned told spawned
      · rename_i parked
        cases taken
        exact .abortParked told parked
      · cases taken
    · cases taken
  | register number =>
    simp only [act] at taken
    split at taken
    · rename_i here
      cases taken
      split
      · rename_i armed
        exact .register here armed
      · rename_i unarmed
        exact .reject here unarmed
    · cases taken
  | drop number =>
    simp only [act] at taken
    split at taken
    · rename_i here
      cases taken
      exact .drop here
    · cases taken
  | dispatch number =>
    simp only [act] at taken
    split at taken
    · rename_i requests here
      cases taken
      exact .dispatch here
    · cases taken
  | finish number =>
    simp only [act] at taken
    split at taken
    · rename_i requests here
      cases taken
      exact .finish here
    · cases taken
  | cut number =>
    simp only [act] at taken
    split at taken
    · rename_i requests here
      split at taken
      · rename_i forced
        cases taken
        exact .cut here forced
      · cases taken
    · cases taken

/-- A step is what an action makes of a service that then hears what it triggered itself. -/
theorem act_of_step {action : Action} (taken : before.step signalled action = some (after, effects)) :
    ∃ reached, before.act signalled action = some (reached, effects) ∧ effects.foldl hear reached = after := by
  obtain ⟨⟨reached, done⟩, acted, heard⟩ := Option.map_eq_some_iff.mp taken
  cases heard
  exact ⟨reached, acted, rfl⟩

theorem shutdowns_foldl_hear (effects : List Effect) (service : Service) :
    (effects.foldl hear service).shutdowns = service.shutdowns := by
  induction effects generalizing service with
  | nil => rfl
  | cons effect rest inductionHypothesis =>
    rw [List.foldl_cons, inductionHypothesis]
    cases effect with
    | trigger signal => cases signal <;> rfl
    | join | leave | say entry => rfl

@[simp]
theorem step_eq_none_iff {action : Action} :
    before.step signalled action = none ↔ before.act signalled action = none :=
  Option.map_eq_none_iff

/-- Every step is a move. -/
theorem move_of_step {action : Action} (taken : before.step signalled action = some (after, effects)) :
    Move signalled before action after effects := by
  obtain ⟨reached, acted, rfl⟩ := act_of_step taken
  exact move_of_act acted

end ServiceHost.Service
