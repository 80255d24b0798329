import ServiceHost.Proofs.Lifecycle.Phases

/-!
Drains: a shutdown that succeeds leaves no connection open and lets none be opened, and connections are cut
only after the deadline of a shutdown, which then fails.
-/

namespace ServiceHost.Lifecycle

/-- Did the deadline of a call at this place elapse? -/
def ShutdownPlace.hasExpired (place : ShutdownPlace) : Bool :=
  place == .expired || place.hasForced

variable {phase : Phase} {old new : ShutdownPlace}

theorem ShutdownPlace.isActive_of_hasDrained (drained : old.hasDrained) : old.isActive := by
  cases old <;> first | rfl | cases drained

theorem ShutdownPlace.isActive_of_hasExpired (expired : old.hasExpired) : old.isActive := by
  cases old <;> first | rfl | cases expired

theorem ShutdownPlace.Follows.hasDrained (follows : old.Follows phase new) (drained : old.hasDrained) :
    new.hasDrained := by
  cases follows with
  | close | leave | giveBack => exact drained
  | expire waits | forsake waits => cases old <;> simp_all [ShutdownPlace.waits, ShutdownPlace.hasDrained]
  | _ => cases drained

theorem ShutdownPlace.Follows.hasExpired (follows : old.Follows phase new) (expired : old.hasExpired) :
    new.hasExpired := by
  cases follows with
  | force => rfl
  | close | leave | giveBack => exact expired
  | expire waits => rfl
  | forsake waits =>
    cases old <;> simp_all [ShutdownPlace.waits, ShutdownPlace.hasExpired, ShutdownPlace.hasForced]
  | _ => cases expired

/-- The places a call comes to after its deadline elapsed. -/
inductive ShutdownPlace.ExpiredAt (place : ShutdownPlace) : Prop where
  | expired (here : place = .expired)
  | settled (started : Bool) (here : place = .settled started false)
  | closed (started : Bool) (here : place = .closed started false)
  | left (here : place = .left false)
  | returned (here : place = .returned false)

theorem ShutdownPlace.expiredAt_of_hasExpired (expired : old.hasExpired) : old.ExpiredAt := by
  cases old with
  | expired => exact .expired rfl
  | settled started drained => cases drained with
    | false => exact .settled started rfl
    | true => cases expired
  | closed started drained => cases drained with
    | false => exact .closed started rfl
    | true => cases expired
  | left drained => cases drained with
    | false => exact .left rfl
    | true => cases expired
  | returned drained => cases drained with
    | false => exact .returned rfl
    | true => cases expired
  | _ => cases expired

/-- A deadline elapses once. -/
theorem ShutdownPlace.Follows.hasExpired_or (follows : old.Follows phase new) (expired : new.hasExpired) :
    new = .expired ∨ old.hasExpired := by
  cases follows with
  | force => exact .inr rfl
  | close | leave | giveBack => exact .inr expired
  | expire waits => exact .inl rfl
  | _ => cases expired

/-- A call whose deadline elapsed returns nothing but an error. -/
theorem ShutdownCall.result?_of_hasExpired {request : ShutdownCall} {result : Except ServerError Unit}
    (expired : request.place.hasExpired) (returned : request.result? = some result) :
    result = .error (.shutdown request.limit) := by
  unfold ShutdownCall.result? at returned
  split at returned
  · rename_i place
    rw [place] at expired
    cases expired
  · exact (Option.some.inj returned).symm
  · rename_i place
    rw [place] at expired
    cases expired
  · cases returned

theorem ShutdownCall.hasDrained_of_result? (request : ShutdownCall) (active : request.isActive)
    (succeeded : request.result? = some (.ok ())) : request.place.hasDrained := by
  unfold ShutdownCall.result? at succeeded
  split at succeeded
  · rename_i place
    rw [place]
    rfl
  · cases succeeded
  · rename_i place
    rw [ShutdownCall.isActive, place] at active
    cases active
  · cases succeeded

end ServiceHost.Lifecycle

namespace ServiceHost.Service

open Lifecycle

variable {signalled : Bool} {action : Action} {limit : Duration} {service before after next last : Service}
  {effects said others : List Effect} {actions later : List (Bool × Action)} {call number : Nat}

/-- A shutdown returns with a result by steps of its own, whenever it is let go on. -/
def Returns (service : Service) (call : Nat) (result : Except ServerError Unit) : Prop :=
  ∃ count last said, service.run (List.replicate count (false, .shutdown call)) = some (last, said) ∧
    last.shutdownResult? call = some result

section Acceptor

/-- Only a panic or an abort makes an acceptor unwind. -/
theorem Move.acceptor_unwinding (moves : Move signalled before action after effects) {ending : Ending}
    (unwinding : after.acceptor = .unwinding ending) :
    before.acceptor = .unwinding ending ∨ action = .panicAcceptor ∨ action = .abortAcceptor := by
  cases moves with
  | panicAcceptor polling => exact .inr (.inl rfl)
  | abortSpawned told spawned | abortParked told parked => exact .inr (.inr rfl)
  | look checking =>
    change (if before.stop then Acceptor.leaving .finished else .polling) = _ at unwinding
    split at unwinding <;> cases unwinding
  | serve | begin | release | mark | unwind | accept | skip | park | wake | fail => cases unwinding
  | _ => exact .inl unwinding

theorem torn_of_unwinding (ran : (opened limit).run actions = some (service, effects)) :
    ∀ ending, service.acceptor = .unwinding ending →
      ∃ taken ∈ actions, taken.2 = .panicAcceptor ∨ taken.2 = .abortAcceptor := by
  refine history_induction (motive := fun actions service _ => ∀ ending,
    service.acceptor = .unwinding ending →
      ∃ taken ∈ actions, taken.2 = .panicAcceptor ∨ taken.2 = .abortAcceptor) (by simp [opened]) ?_ ran
  intro actions signalled action before after said effects _ _ moves earlier ending unwinding
  rcases moves.acceptor_unwinding unwinding with already | torn
  · obtain ⟨taken, member, torn⟩ := earlier ending already
    exact ⟨taken, List.mem_append_left _ member, torn⟩
  · exact ⟨(signalled, action), by simp, torn⟩

/-- An acceptor that is done has released the socket, unless it is still unwinding. -/
theorem Sound.released_of_isDone (sound : service.Sound) (done : service.acceptor.isDone) :
    service.socket = .released ∨ ∃ ending, service.acceptor = .unwinding ending := by
  have started : service.outline.opening = some .started := by
    by_contra notStarted
    have absent : service.acceptor = .absent := sound.outline.acceptor_absent.mpr notStarted
    rw [absent] at done
    cases done
  have served : service.socket = if service.acceptor.hasReleased then .released else .serving :=
    sound.outline.served started
  cases acceptor : service.acceptor with
  | unwinding ending => exact .inr ⟨ending, rfl⟩
  | ended ending =>
    rw [acceptor] at served
    exact .inl served
  | _ =>
    rw [acceptor] at done
    cases done

/-- Where no acceptor was torn down, none is unwinding. -/
theorem released_of_undisturbed (ran : (opened limit).run actions = some (service, effects))
    (undisturbed : ∀ taken ∈ actions, taken.2 ≠ .panicAcceptor ∧ taken.2 ≠ .abortAcceptor)
    (released : service.socket = .released ∨ ∃ ending, service.acceptor = .unwinding ending) :
    service.socket = .released := by
  rcases released with released | ⟨ending, unwinding⟩
  · exact released
  · obtain ⟨taken, member, torn⟩ := torn_of_unwinding ran ending unwinding
    obtain ⟨noPanic, noAbort⟩ := undisturbed taken member
    rcases torn with panics | aborts
    · exact absurd panics noPanic
    · exact absurd aborts noAbort

end Acceptor

section Drained

theorem Sound.hasDrained_of_run (sound : service.Sound) {request : ShutdownCall}
    (here : service.shutdowns[call]? = some request) (drained : request.place.hasDrained)
    (continued : service.run later = some (last, others)) :
    ∃ next, last.shutdowns[call]? = some next ∧ next.place.hasDrained := by
  refine sound.run_induction
    (motive := fun last => ∃ next, last.shutdowns[call]? = some next ∧ next.place.hasDrained)
    ?_ ⟨request, here, drained⟩ continued
  rintro signalled action before after effects sound moves ⟨next, here, drained⟩
  rcases moves.shutdown_goesOn here with stays | ⟨place, follows, _, goesOn⟩
  · exact ⟨next, stays, drained⟩
  · exact ⟨_, goesOn, follows.hasDrained drained⟩

theorem Sound.closing?_hasDrained (sound : service.Sound) {request : ShutdownCall}
    (here : service.shutdowns[call]? = some request) (drained : request.place.hasDrained) :
    service.outline.closing.any ShutdownPlace.hasDrained := by
  have closing : service.outline.closing = some request.place :=
    sound.closing?_eq here (ShutdownPlace.isActive_of_hasDrained drained)
  rw [closing]
  exact drained

/-- After a drain the socket is released, unless the acceptor is still unwinding. -/
theorem Sound.released_or_unwinding (sound : service.Sound) {request : ShutdownCall}
    (here : service.shutdowns[call]? = some request) (drained : request.place.hasDrained) :
    service.socket = .released ∨ ∃ ending, service.acceptor = .unwinding ending := by
  have closing : service.outline.closing = some request.place :=
    sound.closing?_eq here (ShutdownPlace.isActive_of_hasDrained drained)
  have unlocked := sound.outline.unlocked closing
  cases opened : service.outline.opening with
  | none =>
    have released := sound.outline.unclaimed opened
    have settled : request.place.hasSettled := by
      cases place : request.place <;> simp_all [ShutdownPlace.hasDrained, ShutdownPlace.hasSettled]
    rw [closing, Option.any_some, settled] at released
    exact .inl released
  | some place =>
    rw [opened, Option.any_some] at unlocked
    have joined : service.outline.hasJoined := by
      rw [Outline.hasJoined, opened]
      exact place.hasJoined_of_unlocked (List.find?_some opened) unlocked
    have ended := (sound.outline.quiet (sound.closing?_hasDrained here drained) joined).2
    exact sound.released_of_isDone (sound.outline.done ended)

theorem Sound.isDrained_of_hasDrained (sound : service.Sound) {request : ShutdownCall}
    (here : service.shutdowns[call]? = some request) (drained : request.place.hasDrained) :
    service.isDrained :=
  isDrained_iff.mpr (sound.outline.drained (sound.closing?_hasDrained here drained))

/-- Where no connection is open, no request is dispatched. -/
theorem step_dispatch_of_isDrained (drained : service.isDrained) :
    service.step signalled (.dispatch number) = none := by
  rw [isDrained_iff] at drained
  simp only [step_eq_none_iff, act]
  split
  · rename_i requests here
    exact absurd (drained _ (List.mem_of_getElem? here)) Bool.true_eq_false.mp
  · rfl

/-- After a drain a connection that comes to register is dropped. -/
theorem Sound.step_register_dropped (sound : service.Sound) {request : ShutdownCall}
    (here : service.shutdowns[call]? = some request) (drained : request.place.hasDrained)
    (stepped : service.step signalled (.register number) = some (after, said)) :
    after = service.putConnection number .dropped := by
  cases move_of_step stepped with
  | register accepted armed =>
    have connected := sound.outline.connected (List.ne_nil_of_mem (List.mem_of_getElem? accepted))
    have taken : service.handle = .taken := (sound.outline.quiet (sound.closing?_hasDrained here drained)
      (Outline.hasJoined_of_started connected)).1
    rw [armed] at taken
    cases taken
  | reject accepted unarmed => rfl

end Drained

section Expired

/-- Connections are cut only after a shutdown whose deadline elapsed. -/
theorem Sound.hasExpired_of_cut (sound : service.Sound) {requests : Nat}
    (cut : .cut requests ∈ service.connections) :
    ∃ (call : Nat) (request : ShutdownCall), service.shutdowns[call]? = some request ∧
      request.place.hasExpired := by
  have forced := sound.outline.forced (sound.outline.cut requests cut)
  obtain ⟨place, closing, forced⟩ := (Option.any_eq_true _ _).mp forced
  obtain ⟨request, leads, rfl⟩ := Option.map_eq_some_iff.mp closing
  obtain ⟨_, call, here⟩ := Roster.find?_eq_some leads
  exact ⟨call, request, here, by rw [ShutdownPlace.hasExpired, forced, Bool.or_true]⟩

/-- A deadline that elapsed did so in a step of the run. -/
theorem expire_of_hasExpired (ran : (opened limit).run actions = some (service, effects)) :
    ∀ call request, service.shutdowns[call]? = some request → request.place.hasExpired →
      ∃ signalled, (signalled, .expire call) ∈ actions := by
  refine history_induction (motive := fun actions service _ => ∀ call request,
    service.shutdowns[call]? = some request → request.place.hasExpired →
      ∃ signalled, (signalled, .expire call) ∈ actions) (by simp [opened]) ?_ ran
  intro actions signalled action before after said effects _ _ moves earlier call request here expired
  have extend (known : ∃ signalled, (signalled, .expire call) ∈ actions) :
      ∃ flag, (flag, .expire call) ∈ actions ++ [(signalled, action)] := by
    obtain ⟨flag, member⟩ := known
    exact ⟨flag, List.mem_append_left _ member⟩
  rcases moves.shutdown_cameFrom here with called | present | ⟨old, found, _, follows, movedBy⟩
  · rw [called] at expired
    cases expired
  · exact extend (earlier call request present expired)
  · rcases follows.hasExpired_or expired with place | already
    · rw [place] at movedBy
      obtain rfl : action = .expire call := movedBy
      exact ⟨signalled, by simp⟩
    · exact extend (earlier call old found already)

/-- A deadline that elapsed in a step of a run has elapsed. -/
theorem hasExpired_of_expire (ran : (opened limit).run actions = some (service, effects))
    (elapsed : (signalled, .expire call) ∈ actions) :
    ∃ request, service.shutdowns[call]? = some request ∧ request.place.hasExpired := by
  obtain ⟨first, rest, rfl⟩ := List.append_of_mem elapsed
  obtain ⟨before, _, _, reached, continued, rfl⟩ := run_append.mp ran
  obtain ⟨next, _, _, stepped, goesOn, rfl⟩ := run_cons.mp continued
  have moves := move_of_step stepped
  have sound := (sound_of_run reached).move moves
  refine sound.run_induction (motive := fun last => ∃ request, last.shutdowns[call]? = some request ∧
    request.place.hasExpired) ?_ ?_ goesOn
  · rintro signalled action before after effects sound moves ⟨request, here, expired⟩
    rcases moves.shutdown_goesOn here with stays | ⟨place, follows, _, goesOn⟩
    · exact ⟨request, stays, expired⟩
    · exact ⟨_, goesOn, follows.hasExpired expired⟩
  · cases moves with
    | expire here waits => exact ⟨_, getElem?_moveShutdown here _, rfl⟩

theorem Returns.of_step {result : Except ServerError Unit}
    (stepped : service.step false (.shutdown call) = some (next, said)) (returns : next.Returns call result) :
    service.Returns call result := by
  obtain ⟨count, last, others, ran, returned⟩ := returns
  exact ⟨count + 1, last, said ++ others, run_cons.mpr ⟨next, said, others, stepped, ran, rfl⟩, returned⟩

/-- While a shutdown acts, no call holds the state lock. -/
theorem Sound.stateLocked_eq_false (sound : service.Sound) {request : ShutdownCall}
    (here : service.shutdowns[call]? = some request) (active : request.isActive) :
    service.stateLocked = false :=
  sound.stateLocked_of_opening (sound.outline.unlocked (sound.closing?_eq here active))

theorem step_shutdown {request : ShutdownCall} {place : ShutdownPlace}
    (here : service.shutdowns[call]? = some request) (isThere : request.place = place)
    (taken : service.stepShutdown call request.limit place = some (next, said)) (signalled : Bool) :
    service.step signalled (.shutdown call) = some (said.foldl hear next, said) := by
  rw [step, act, here, Option.bind_some, isThere, taken, Option.map_some]

theorem returns_of_left {request : ShutdownCall} (here : service.shutdowns[call]? = some request)
    (left : request.place = .left false) : service.Returns call (.error (.shutdown request.limit)) := by
  have stepped : service.step false (.shutdown call) =
      some (service.moveShutdown call (.returned false), [farewell request.limit false]) :=
    step_shutdown here left rfl false
  refine .of_step stepped ⟨0, _, [], rfl, ?_⟩
  rw [shutdownResult?, getElem?_moveShutdown here]
  rfl

theorem returns_of_closed {request : ShutdownCall} {started : Bool}
    (here : service.shutdowns[call]? = some request) (closed : request.place = .closed started false) :
    service.Returns call (.error (.shutdown request.limit)) := by
  have moved := getElem?_moveShutdown here (.left false)
  have returns := returns_of_left moved rfl
  have stepped := step_shutdown here closed rfl false
  cases started with
  | true => exact .of_step stepped returns
  | false => exact .of_step stepped returns

theorem Sound.returns_of_settled (sound : service.Sound) {request : ShutdownCall} {started : Bool}
    (here : service.shutdowns[call]? = some request) (settled : request.place = .settled started false) :
    service.Returns call (.error (.shutdown request.limit)) := by
  have unlocked := sound.stateLocked_eq_false here (by rw [ShutdownCall.isActive, settled]; rfl)
  have stepped := step_shutdown here settled (if_neg (by rw [unlocked]; exact Bool.false_ne_true)) false
  have moved :
      ({ service with phase := .closed }.moveShutdown call (.closed started false)).shutdowns[call]? =
        some { request with place := .closed started false } := getElem?_moveShutdown here _
  have returns := returns_of_closed moved rfl
  exact .of_step stepped returns

theorem Sound.returns_of_expired (sound : service.Sound) {request : ShutdownCall}
    (here : service.shutdowns[call]? = some request) (expired : request.place = .expired) :
    service.Returns call (.error (.shutdown request.limit)) := by
  have stepped := step_shutdown here expired rfl false
  have soundNext := sound.move (move_of_step stepped)
  have moved :
      ({ service with forceClose := true }.moveShutdown call (.settled true false)).shutdowns[call]? =
        some { request with place := .settled true false } := getElem?_moveShutdown here _
  have returns := soundNext.returns_of_settled moved rfl
  exact .of_step stepped returns

/-- A shutdown whose deadline elapsed returns, and with an error. -/
theorem Sound.returns_of_hasExpired (sound : service.Sound) {request : ShutdownCall}
    (here : service.shutdowns[call]? = some request) (expired : request.place.hasExpired) :
    service.Returns call (.error (.shutdown request.limit)) := by
  cases ShutdownPlace.expiredAt_of_hasExpired expired with
  | expired place => exact sound.returns_of_expired here place
  | settled started place => exact sound.returns_of_settled here place
  | closed started place => exact returns_of_closed here place
  | left place => exact returns_of_left here place
  | returned place =>
    have returned : service.shutdownResult? call = some (.error (.shutdown request.limit)) := by
      rw [shutdownResult?, here, Option.bind_some, ShutdownCall.result?, place]
    exact ⟨0, service, [], rfl, returned⟩

end Expired

/-- What a shutdown that succeeded leaves behind, at the end of a run and of any continuation. -/
structure Quiesced (actions : List (Bool × Action)) (service : Service) : Prop where
  /-- The socket is released. Only an acceptor that panicked or was aborted may be about to do so. -/
  released : (∀ taken ∈ actions, taken.2 ≠ .panicAcceptor ∧ taken.2 ≠ .abortAcceptor) →
    service.socket = .released
  unwinding : service.socket ≠ .released → ∃ ending, service.acceptor = .unwinding ending
  /-- No connection is open, then or later. -/
  drained : ∀ later last others, service.run later = some (last, others) → last.isDrained
  /-- No request is dispatched any more. -/
  undispatched : ∀ later last others, service.run later = some (last, others) →
    ∀ signalled number, last.step signalled (.dispatch number) = none
  /-- A connection that comes to register is dropped. -/
  unregistered : ∀ later last others, service.run later = some (last, others) →
    ∀ signalled number after said, last.step signalled (.register number) = some (after, said) →
      after = last.putConnection number .dropped

theorem quiesced_of_hasDrained (ran : (opened limit).run actions = some (service, effects))
    {request : ShutdownCall} (here : service.shutdowns[call]? = some request)
    (drained : request.place.hasDrained) : Quiesced actions service := by
  have sound := sound_of_run ran
  constructor
  case released =>
    intro undisturbed
    exact released_of_undisturbed ran undisturbed (sound.released_or_unwinding here drained)
  case unwinding =>
    intro bound
    exact (sound.released_or_unwinding here drained).resolve_left bound
  case drained =>
    intro later last others continued
    obtain ⟨next, found, stays⟩ := sound.hasDrained_of_run here drained continued
    exact (sound.run continued).isDrained_of_hasDrained found stays
  case undispatched =>
    intro later last others continued signalled number
    obtain ⟨next, found, stays⟩ := sound.hasDrained_of_run here drained continued
    exact step_dispatch_of_isDrained ((sound.run continued).isDrained_of_hasDrained found stays)
  case unregistered =>
    intro later last others continued signalled number after said stepped
    obtain ⟨next, found, stays⟩ := sound.hasDrained_of_run here drained continued
    exact (sound.run continued).step_register_dropped found stays stepped

/-- Where the first shutdown succeeds, nothing is open or will be. A connection is cut only after the deadline
of the first shutdown elapsed, and then this shutdown returns with an error. -/
theorem drain_safe (ran : (opened limit).run actions = some (service, effects)) :
    (∀ call, ShutdownFirst (opened limit) actions call → service.shutdownResult? call = some (.ok ()) →
      Quiesced actions service) ∧
    (∀ requests, .cut requests ∈ service.connections →
      ∃ call signalled, (signalled, .expire call) ∈ actions) ∧
    ∀ call signalled, (signalled, .expire call) ∈ actions →
      ShutdownFirst (opened limit) actions call ∧
      ∃ request, service.shutdowns[call]? = some request ∧
        (∀ result, request.result? = some result → result = .error (.shutdown request.limit)) ∧
        service.Returns call (.error (.shutdown request.limit)) := by
  have sound := sound_of_run ran
  refine ⟨?_, ?_, ?_⟩
  · intro call came succeeded
    obtain ⟨request, here, active⟩ := isActive_of_shutdownFirst ran came
    rw [shutdownResult?, here, Option.bind_some] at succeeded
    exact quiesced_of_hasDrained ran here (request.hasDrained_of_result? active succeeded)
  · intro requests cut
    obtain ⟨call, request, here, expired⟩ := sound.hasExpired_of_cut cut
    exact ⟨call, expire_of_hasExpired ran call request here expired⟩
  · intro call signalled elapsed
    obtain ⟨request, here, expired⟩ := hasExpired_of_expire ran elapsed
    have active : request.isActive := ShutdownPlace.isActive_of_hasExpired expired
    refine ⟨shutdownFirst_of_isActive ran call request here active, request, here, ?_, ?_⟩
    · intro result returned
      exact ShutdownCall.result?_of_hasExpired expired returned
    · exact sound.returns_of_hasExpired here expired

/-- A service serves a request, and a connection that was accepted last comes to register after the drain
has begun. -/
def stoppedWhileServing : List (Bool × Action) :=
  [.callStart, .start 0, .start 0, .start 0, .start 0, .start 0, .start 0, .advance, .advance, .accept,
    .register 0, .dispatch 0, .advance, .accept, .callShutdown (.ofSeconds 5), .shutdown 0, .shutdown 0,
    .advance, .advance, .advance, .shutdown 0, .register 1].map (false, ·)

/-- The request is answered in time. -/
def finishedInTime : List (Bool × Action) :=
  stoppedWhileServing ++
    [.finish 0, .shutdown 0, .shutdown 0, .shutdown 0, .shutdown 0].map (false, ·)

/-- The deadline elapses first. -/
def cutAtDeadline : List (Bool × Action) :=
  stoppedWhileServing ++ [.expire 0, .shutdown 0, .cut 0].map (false, ·)

/-- The service after the shutdown with its connections. -/
def serviceWith (phase : Phase) (forceClose : Bool) (place : ShutdownPlace) (first : Connection) :
    Service where
  phase := phase
  socket := .released
  handle := .taken
  stop := true
  forceClose := forceClose
  acceptorDone := true
  watcher := .watching
  acceptor := .ended .finished
  pool := [.watcher, .acceptor]
  connections := [first, .dropped]
  starts := [.started]
  shutdowns := [{ limit := .ofSeconds 5, place := place }]

theorem drain_safe_deadline :
    (∃ effects, (opened (.ofSeconds 30)).run finishedInTime =
      some (serviceWith .closed false (.returned true) (.finished 1), effects)) ∧
    Quiesced finishedInTime (serviceWith .closed false (.returned true) (.finished 1)) ∧
    (∃ effects, (opened (.ofSeconds 30)).run cutAtDeadline =
      some (serviceWith .shuttingDown true (.settled true false) (.cut 1), effects)) ∧
    (serviceWith .shuttingDown true (.settled true false) (.cut 1)).Returns 0
      (.error (.shutdown (.ofSeconds 5))) := by
  have finished : (opened (.ofSeconds 30)).run finishedInTime =
      some (serviceWith .closed false (.returned true) (.finished 1),
        [.join, say .info "server started" [], .trigger .stop, say .info "listener closed" [], .leave,
          say .info "server stopped" []]) := by decide
  have cut : (opened (.ofSeconds 30)).run cutAtDeadline =
      some (serviceWith .shuttingDown true (.settled true false) (.cut 1),
        [.join, say .info "server started" [], .trigger .stop, say .info "listener closed" [],
          .trigger .forceClose]) := by decide
  obtain ⟨_, _, here, _, returns⟩ := (drain_safe cut).2.2 0 false (by decide)
  cases here
  have came : ShutdownFirst (opened (.ofSeconds 30)) finishedInTime 0 :=
    shutdownFirst_of_isActive finished 0 _ rfl rfl
  exact ⟨⟨_, finished⟩, (drain_safe finished).1 0 came rfl, ⟨_, cut⟩, returns⟩

/-- The acceptor panics while it looks for a connection, after the first shutdown has stopped it. It is marked
as done before it lets go of the socket, and no connection is open. -/
def panickedWhileStopping : List (Bool × Action) :=
  [.callStart, .start 0, .start 0, .start 0, .start 0, .start 0, .start 0, .advance, .advance,
    .callShutdown (.ofSeconds 5), .shutdown 0, .shutdown 0, .panicAcceptor, .shutdown 0, .shutdown 0, .shutdown 0,
    .shutdown 0, .shutdown 0].map (false, ·)

/-- The first shutdown succeeded, and the acceptor still has the socket. -/
theorem bound_after_panic :
    ∃ service effects, (opened (.ofSeconds 30)).run panickedWhileStopping = some (service, effects) ∧
      ShutdownFirst (opened (.ofSeconds 30)) panickedWhileStopping 0 ∧
      service.shutdownResult? 0 = some (.ok ()) ∧ service.socket = .serving := by
  obtain ⟨⟨service, effects⟩, ran⟩ := Option.isSome_iff_exists.mp
    (show ((opened (.ofSeconds 30)).run panickedWhileStopping).isSome by decide)
  have reached : ((opened (.ofSeconds 30)).run panickedWhileStopping).map
      (fun ended => (ended.1.shutdowns[0]?, ended.1.socket)) =
        some (some { limit := .ofSeconds 5, place := .returned true }, .serving) := by decide
  simp only [ran, Option.map_some, Option.some.injEq, Prod.mk.injEq] at reached
  have succeeded : service.shutdownResult? 0 = some (.ok ()) := by
    rw [shutdownResult?, reached.1]
    rfl
  exact ⟨service, effects, ran, shutdownFirst_of_isActive ran 0 _ reached.1 rfl, succeeded, reached.2⟩

end ServiceHost.Service
