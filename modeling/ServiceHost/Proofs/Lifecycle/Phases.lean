import ServiceHost.Proofs.Lifecycle.Course

/-!
Phases: a service only ever goes forward. At most one start succeeds, and of all shutdowns the first to take
the state lock does the work.
-/

namespace ServiceHost.Service

open Lifecycle

/-- The result of a call that starts the service. -/
def startResultOf? (service : Service) (call : Nat) : Option (Except ServerError Unit) :=
  service.starts[call]?.bind StartPlace.result?

/-- In a run, a start took its first step at a moment at which the service was in a phase. -/
def StartFound (service : Service) (actions : List (Bool × Action)) (call : Nat) (phase : Phase) : Prop :=
  ∃ first signalled rest before said, actions = first ++ (signalled, .start call) :: rest ∧
    service.run first = some (before, said) ∧ before.starts[call]? = some .called ∧ before.phase = phase

/-- In a run, a shutdown was the first of all to take the state lock. -/
def ShutdownFirst (service : Service) (actions : List (Bool × Action)) (call : Nat) : Prop :=
  ∃ first signalled rest before said, actions = first ++ (signalled, .shutdown call) :: rest ∧
    service.run first = some (before, said) ∧ ∀ request ∈ before.shutdowns, request.place = .called

variable {signalled : Bool} {action : Action} {limit : Duration} {service before after last : Service}
  {effects said others : List Effect} {actions later : List (Bool × Action)} {call : Nat} {phase : Phase}

theorem StartFound.snoc (found : StartFound service actions call phase) (taken : Bool × Action) :
    StartFound service (actions ++ [taken]) call phase := by
  obtain ⟨first, signalled, rest, before, said, rfl, reached⟩ := found
  exact ⟨first, signalled, rest ++ [taken], before, said, by simp, reached⟩

theorem ShutdownFirst.snoc (came : ShutdownFirst service actions call) (taken : Bool × Action) :
    ShutdownFirst service (actions ++ [taken]) call := by
  obtain ⟨first, signalled, rest, before, said, rfl, reached⟩ := came
  exact ⟨first, signalled, rest ++ [taken], before, said, by simp, reached⟩

theorem sound_of_run (ran : (opened limit).run actions = some (service, effects)) : service.Sound :=
  ((Reachable.opened limit).run ran).sound

section Phase

theorem Sound.phase_ne_created (sound : service.Sound) : service.phase ≠ .created := by
  intro created
  have law : Phase.created = Outline.phaseOf service.opening? service.closing? :=
    created.symm.trans sound.outline.phase_eq
  unfold Outline.phaseOf at law
  split at law <;> split at law <;> cases law

/-- A step takes the phase forward or leaves it. -/
theorem Sound.rank_le_of_move (sound : before.Sound) (moves : Move signalled before action after effects) :
    before.phase.rank ≤ after.phase.rank := by
  have highest (phase : Phase) : phase.rank ≤ Phase.closed.rank := by cases phase <;> decide
  cases moves with
  | @launch call here =>
    have joined := sound.opening?_eq here rfl
    have unasked := sound.outline.locked (by rw [Service.outline, joined]; rfl)
    have early := sound.outline.not_late unasked
    change ¬(before.phase = .shuttingDown ∨ before.phase = .closed) at early
    show before.phase.rank ≤ Phase.running.rank
    cases phase : before.phase <;> simp_all [Phase.rank]
  | latch here place unlocked early =>
    show before.phase.rank ≤ Phase.shuttingDown.rank
    cases phase : before.phase <;> simp_all [Phase.rank]
  | close here place unlocked => exact highest before.phase
  | _ => exact Nat.le_refl _

theorem Sound.rank_le_of_run (sound : service.Sound) (continued : service.run later = some (last, others)) :
    service.phase.rank ≤ last.phase.rank := by
  refine sound.run_induction (motive := fun last => service.phase.rank ≤ last.phase.rank)
    ?_ (Nat.le_refl _) continued
  intro signalled action before after effects sound moves atMost
  exact Nat.le_trans atMost (sound.rank_le_of_move moves)

end Phase

section Start

/-- A start that took the socket has it taken ever after. -/
theorem Sound.hasClaimed_of_run (sound : service.Sound) {place : StartPlace}
    (here : service.starts[call]? = some place) (claimed : place.hasClaimed)
    (continued : service.run later = some (last, others)) :
    ∃ place, last.starts[call]? = some place ∧ place.hasClaimed := by
  refine sound.run_induction
    (motive := fun last => ∃ place, last.starts[call]? = some place ∧ place.hasClaimed)
    ?_ ⟨place, here, claimed⟩ continued
  rintro signalled action before after effects sound moves ⟨place, here, claimed⟩
  rcases moves.start_goesOn sound here with stays | ⟨new, _, follows, goesOn⟩
  · exact ⟨place, stays, claimed⟩
  · exact ⟨new, goesOn, follows.hasClaimed claimed⟩

/-- A start that was refused stays so. -/
theorem Sound.refused_of_run (sound : service.Sound) (here : service.starts[call]? = some (.refused phase))
    (continued : service.run later = some (last, others)) :
    last.starts[call]? = some (.refused phase) := by
  refine sound.run_induction (motive := fun last => last.starts[call]? = some (.refused phase))
    ?_ here continued
  intro signalled action before after effects sound moves here
  rcases moves.start_goesOn sound here with stays | ⟨new, _, follows, _⟩
  · exact stays
  · cases follows

/-- A start takes the socket only where it finds the service listening. -/
theorem startFound_of_hasClaimed (ran : (opened limit).run actions = some (service, effects)) :
    ∀ call place, service.starts[call]? = some place → place.hasClaimed →
      StartFound (opened limit) actions call .listening := by
  refine history_induction (motive := fun actions service _ => ∀ call place,
    service.starts[call]? = some place → place.hasClaimed →
      StartFound (opened limit) actions call .listening) (by simp [opened]) ?_ ran
  intro actions signalled action before after said effects reached sound moves earlier call place here claims
  rcases moves.start_cameFrom sound here with rfl | present | ⟨old, rfl, found, follows⟩
  · cases claims
  · exact (earlier call place present claims).snoc _
  · rcases follows.hasClaimed_or claims with claimed | ⟨rfl, listening⟩
    · exact (earlier call old found claimed).snoc _
    · exact ⟨actions, signalled, [], before, said, rfl, reached, found, listening⟩

/-- A start that finds another phase than listening is refused and does nothing else. -/
theorem step_start_refused (here : service.starts[call]? = some .called) (busy : service.phase ≠ .listening)
    (stepped : service.step signalled (.start call) = some (after, said)) :
    after = service.moveStart call (.refused service.phase) ∧ said = [] := by
  obtain ⟨reached, acted, rfl⟩ := act_of_step stepped
  obtain ⟨place, found, taken⟩ := Option.bind_eq_some_iff.mp acted
  obtain rfl := Option.some.inj (here.symm.trans found)
  simp only [stepStart, busy, false_and, if_false] at taken
  split at taken
  · cases taken
  · cases taken
    exact ⟨rfl, rfl⟩

/-- What a start finds that is not listening is what it returns at the end. -/
theorem refused_of_startFound (ran : (opened limit).run actions = some (service, effects))
    (found : StartFound (opened limit) actions call phase) (busy : phase ≠ .listening) :
    service.starts[call]? = some (.refused phase) := by
  obtain ⟨first, signalled, rest, before, said, rfl, reached, here, rfl⟩ := found
  obtain ⟨middle, _, _, ranFirst, ranRest, rfl⟩ := run_append.mp ran
  obtain ⟨rfl, rfl⟩ := Prod.mk.inj (Option.some.inj (ranFirst.symm.trans reached))
  obtain ⟨next, _, _, stepped, continued, rfl⟩ := run_cons.mp ranRest
  have sound := (sound_of_run reached).move (move_of_step stepped)
  obtain ⟨rfl, rfl⟩ := step_start_refused here busy stepped
  exact sound.refused_of_run (getElem?_moveStart here) continued

theorem startResultOf?_eq_ok (succeeded : service.startResultOf? call = some (.ok ())) :
    service.starts[call]? = some .started := by
  obtain ⟨place, here, result⟩ := Option.bind_eq_some_iff.mp succeeded
  cases place <;> first | exact here | cases result

theorem startResultOf?_eq_invalidState
    (refused : service.startResultOf? call = some (.error (.invalidState "start" phase))) :
    service.starts[call]? = some (.refused phase) := by
  obtain ⟨place, here, result⟩ := Option.bind_eq_some_iff.mp refused
  cases place <;> cases result
  exact here

end Start

section Shutdown

/-- The phase shows that a shutdown has looked at it. -/
theorem Sound.late_of_asked (sound : service.Sound)
    (asked : ∃ request ∈ service.shutdowns, request.place ≠ .called) :
    service.phase = .shuttingDown ∨ service.phase = .closed := by
  obtain ⟨request, member, notCalled⟩ := asked
  cases closing : service.closing? with
  | none => exact absurd (sound.unasked closing request member) notCalled
  | some place =>
    have law : service.phase = Outline.phaseOf service.opening? service.closing? := sound.outline.phase_eq
    rw [law, closing, Outline.phaseOf]
    split
    · exact .inr rfl
    · exact .inl rfl

/-- As long as no shutdown has looked at the phase, none acts. -/
theorem closing?_eq_none (unasked : ∀ request ∈ service.shutdowns, request.place = .called) :
    service.closing? = none := by
  refine Option.map_eq_none_iff.mpr (List.find?_eq_none.mpr fun request member => ?_)
  rw [ShutdownCall.isActive, unasked request member]
  exact Bool.false_ne_true

/-- A shutdown that acts does so ever after. -/
theorem Sound.isActive_of_run (sound : service.Sound) {request : ShutdownCall}
    (here : service.shutdowns[call]? = some request) (active : request.isActive)
    (continued : service.run later = some (last, others)) :
    ∃ next, last.shutdowns[call]? = some next ∧ next.isActive ∧ request.place.rank ≤ next.place.rank := by
  refine sound.run_induction
    (motive := fun last => ∃ next, last.shutdowns[call]? = some next ∧ next.isActive ∧
      request.place.rank ≤ next.place.rank)
    ?_ ⟨request, here, active, Nat.le_refl _⟩ continued
  rintro signalled action before after effects sound moves ⟨next, here, active, atMost⟩
  rcases moves.shutdown_goesOn here with stays | ⟨place, follows, _, goesOn⟩
  · exact ⟨next, stays, active, atMost⟩
  · exact ⟨_, goesOn, follows.isActive active, Nat.le_trans atMost (Nat.le_of_lt follows.rank_lt)⟩

/-- A shutdown that came second stays so. -/
theorem Sound.repeated_of_run (sound : service.Sound) {request : ShutdownCall}
    (here : service.shutdowns[call]? = some request) (repeats : request.place = .repeated)
    (continued : service.run later = some (last, others)) : last.shutdowns[call]? = some request := by
  refine sound.run_induction (motive := fun last => last.shutdowns[call]? = some request) ?_ here continued
  intro signalled action before after effects sound moves here
  rcases moves.shutdown_goesOn here with stays | ⟨place, follows, _, _⟩
  · exact stays
  · rw [repeats] at follows
    cases follows with
    | expire waits | forsake waits => cases waits

/-- Only the first shutdown acts. -/
theorem shutdownFirst_of_isActive (ran : (opened limit).run actions = some (service, effects)) :
    ∀ call request, service.shutdowns[call]? = some request → request.isActive →
      ShutdownFirst (opened limit) actions call := by
  refine history_induction (motive := fun actions service _ => ∀ call request,
    service.shutdowns[call]? = some request → request.isActive →
      ShutdownFirst (opened limit) actions call) (by simp [opened]) ?_ ran
  intro actions signalled action before after said effects reached sound moves earlier call request here
    active
  rcases moves.shutdown_cameFrom here with called | present | ⟨old, found, _, follows, movedBy⟩
  · rw [ShutdownCall.isActive, called] at active
    cases active
  · exact (earlier call request present active).snoc _
  · rcases follows.isActive_or active with wasActive | ⟨called, early⟩
    · exact (earlier call old found wasActive).snoc _
    · have unasked := sound.unasked (sound.outline.closing_eq_none early)
      have acted : action = .shutdown call := by
        rw [called] at follows
        generalize request.place = place at follows movedBy
        cases follows with
        | latch | again => exact movedBy
        | expire waits | forsake waits => cases waits
      subst acted
      exact ⟨actions, signalled, [], before, said, rfl, reached, unasked⟩

/-- A shutdown that looks at the phase after another has come second and does nothing else. -/
theorem step_shutdown_repeated {request : ShutdownCall} (here : service.shutdowns[call]? = some request)
    (called : request.place = .called) (late : service.phase = .shuttingDown ∨ service.phase = .closed)
    (stepped : service.step signalled (.shutdown call) = some (after, said)) :
    after = service.moveShutdown call .repeated ∧
      said = [say .debug "shutdown already requested" [("state", .text service.phase.label)]] := by
  obtain ⟨reached, acted, rfl⟩ := act_of_step stepped
  obtain ⟨other, found, taken⟩ := Option.bind_eq_some_iff.mp acted
  obtain rfl := Option.some.inj (here.symm.trans found)
  rw [called] at taken
  simp only [stepShutdown, late, if_true] at taken
  split at taken
  · cases taken
  · cases taken
    exact ⟨rfl, rfl⟩

/-- The first shutdown acts. -/
theorem Sound.isActive_of_step (sound : before.Sound)
    (unasked : ∀ request ∈ before.shutdowns, request.place = .called)
    (stepped : before.step signalled (.shutdown call) = some (after, said)) :
    ∃ next, after.shutdowns[call]? = some next ∧ next.isActive := by
  obtain ⟨reached, acted, rfl⟩ := act_of_step stepped
  obtain ⟨request, here, taken⟩ := Option.bind_eq_some_iff.mp acted
  have early := sound.outline.not_late (closing?_eq_none unasked)
  change ¬(before.phase = .shuttingDown ∨ before.phase = .closed) at early
  rw [unasked request (List.mem_of_getElem? here)] at taken
  simp only [stepShutdown, early, if_false] at taken
  split at taken
  · cases taken
  · cases taken
    exact ⟨{ request with place := .latched _ }, getElem?_moveShutdown here _, rfl⟩

theorem isActive_of_shutdownFirst (ran : (opened limit).run actions = some (service, effects))
    (came : ShutdownFirst (opened limit) actions call) :
    ∃ request, service.shutdowns[call]? = some request ∧ request.isActive := by
  obtain ⟨first, signalled, rest, before, said, rfl, reached, unasked⟩ := came
  obtain ⟨middle, _, _, ranFirst, ranRest, rfl⟩ := run_append.mp ran
  obtain ⟨rfl, rfl⟩ := Prod.mk.inj (Option.some.inj (ranFirst.symm.trans reached))
  obtain ⟨next, _, _, stepped, continued, rfl⟩ := run_cons.mp ranRest
  have sound := sound_of_run reached
  obtain ⟨request, here, active⟩ := sound.isActive_of_step unasked stepped
  obtain ⟨last, found, stays, _⟩ := (sound.move (move_of_step stepped)).isActive_of_run here active continued
  exact ⟨last, found, stays⟩

/-- Once a drain has begun, or was passed over, no step begins one. -/
theorem Sound.draining_of_step (sound : service.Sound) {request : ShutdownCall} {number : Nat}
    (here : service.shutdowns[number]? = some request) (past : request.place.isPastStop)
    (continued : service.run later = some (last, others))
    (stepped : last.step signalled action = some (after, said))
    (drains : after.shutdownPlace? call = some .draining) : last.shutdownPlace? call = some .draining := by
  rw [ShutdownPlace.isPastStop, Bool.and_eq_true, decide_eq_true_iff] at past
  obtain ⟨next, found, active, atLeast⟩ := sound.isActive_of_run here past.1 continued
  have moves := move_of_step stepped
  have soundLast := sound.run continued
  obtain ⟨drain, foundDrain, place⟩ := Option.map_eq_some_iff.mp drains
  rcases moves.shutdown_goesOn found with stays | ⟨new, follows, _, goesOn⟩
  · obtain rfl := (soundLast.move moves).soleShutdown number call next drain stays foundDrain active
      (by rw [ShutdownCall.isActive, place]; rfl)
    obtain rfl := Option.some.inj (stays.symm.trans foundDrain)
    exact Option.map_eq_some_iff.mpr ⟨next, found, place⟩
  · obtain rfl := (soundLast.move moves).soleShutdown number call _ drain goesOn foundDrain
      (follows.isActive active) (by rw [ShutdownCall.isActive, place]; rfl)
    obtain rfl := Option.some.inj (goesOn.symm.trans foundDrain)
    have further := follows.rank_lt
    change new = .draining at place
    rw [place] at further
    omega

end Shutdown

/-- What holds of the calls on a service at the end of a run and at the end of any continuation. -/
structure GoesForward (limit : Duration) (actions : List (Bool × Action)) (service last : Service) :
    Prop where
  listening : Phase.listening.rank ≤ service.phase.rank
  /-- The phase never goes back. -/
  phase : service.phase.rank ≤ last.phase.rank
  /-- No second start succeeds. -/
  one_start : ∀ call other, service.startResultOf? call = some (.ok ()) →
    last.startResultOf? other = some (.ok ()) → call = other
  found_listening : ∀ call, service.startResultOf? call = some (.ok ()) →
    StartFound (opened limit) actions call .listening
  /-- A start returns the other phase that it found. -/
  found_other : ∀ call phase, StartFound (opened limit) actions call phase → phase ≠ .listening →
    service.startResultOf? call = some (.error (.invalidState "start" phase))
  /-- To be refused changes nothing but the call that is. -/
  refused : ∀ call signalled after said, service.starts[call]? = some .called →
    service.phase ≠ .listening → service.step signalled (.start call) = some (after, said) →
    after = service.moveStart call (.refused service.phase) ∧ said = []
  /-- A start that was refused takes no other step. -/
  refused_last : ∀ call phase,
    service.startResultOf? call = some (.error (.invalidState "start" phase)) →
    last.startResultOf? call = some (.error (.invalidState "start" phase)) ∧
      ∀ signalled, last.step signalled (.start call) = none
  /-- The first shutdown to take the state lock acts, and no other. -/
  first_acts : ∀ call request, service.shutdowns[call]? = some request →
    (request.isActive ↔ ShutdownFirst (opened limit) actions call)
  one_acts : ∀ (call other : Nat) (request another : ShutdownCall), service.shutdowns[call]? = some request →
    last.shutdowns[other]? = some another → request.isActive → another.isActive → call = other
  /-- To come second changes nothing but the call that does. -/
  repeated : ∀ call request signalled after said, service.shutdowns[call]? = some request →
    request.place = .called → (∃ earlier ∈ service.shutdowns, earlier.place ≠ .called) →
    service.step signalled (.shutdown call) = some (after, said) →
    after = service.moveShutdown call .repeated ∧
      said = [say .debug "shutdown already requested" [("state", .text service.phase.label)]]
  /-- A shutdown that came second returns without an error and takes no other step. -/
  repeated_last : ∀ call request, service.shutdowns[call]? = some request → request.place = .repeated →
    last.shutdownResult? call = some (.ok ()) ∧ ∀ signalled, last.step signalled (.shutdown call) = none ∧
      last.step signalled (.expire call) = none ∧ last.step signalled (.abandonShutdown call) = none
  /-- Once a drain has begun, or was passed over, none begins. -/
  one_drain : ∀ request ∈ service.shutdowns, request.place.isPastStop →
    ∀ signalled action after said call, last.step signalled action = some (after, said) →
      after.shutdownPlace? call = some .draining → last.shutdownPlace? call = some .draining

/-- In every run, whoever makes the calls and in whatever order they take their steps, a service only goes
forward: one start succeeds, one shutdown acts, and all other calls leave everything as it is. -/
theorem goesForward_of_run (ran : (opened limit).run actions = some (service, effects))
    (continued : service.run later = some (last, others)) : GoesForward limit actions service last := by
  have sound := sound_of_run ran
  have soundLast := sound.run continued
  constructor
  case listening =>
    have notCreated := sound.phase_ne_created
    cases phase : service.phase with
    | created => exact absurd phase notCreated
    | listening | running | shuttingDown | closed => decide
  case phase => exact sound.rank_le_of_run continued
  case one_start =>
    intro call other succeeded otherSucceeded
    obtain ⟨place, here, claimed⟩ := sound.hasClaimed_of_run (startResultOf?_eq_ok succeeded) rfl continued
    exact soundLast.soleStart call other place .started here (startResultOf?_eq_ok otherSucceeded) claimed rfl
  case found_listening =>
    intro call succeeded
    exact startFound_of_hasClaimed ran call .started (startResultOf?_eq_ok succeeded) rfl
  case found_other =>
    intro call phase found busy
    rw [startResultOf?, refused_of_startFound ran found busy]
    rfl
  case refused =>
    intro call signalled after said here busy stepped
    exact step_start_refused here busy stepped
  case refused_last =>
    intro call phase refused
    have here := sound.refused_of_run (startResultOf?_eq_invalidState refused) continued
    constructor
    · rw [startResultOf?, here]
      rfl
    · intro signalled
      simp [act, here, stepStart]
  case first_acts =>
    intro call request here
    constructor
    · exact shutdownFirst_of_isActive ran call request here
    · intro came
      obtain ⟨other, found, active⟩ := isActive_of_shutdownFirst ran came
      rw [Option.some.inj (here.symm.trans found)]
      exact active
  case one_acts =>
    intro call other request another here found active otherActive
    obtain ⟨next, goesOn, stays, _⟩ := sound.isActive_of_run here active continued
    exact soundLast.soleShutdown call other next another goesOn found stays otherActive
  case repeated =>
    intro call request signalled after said here called asked stepped
    exact step_shutdown_repeated here called (sound.late_of_asked asked) stepped
  case repeated_last =>
    intro call request here repeats
    have stays := sound.repeated_of_run here repeats continued
    refine ⟨?_, fun signalled => ⟨?_, ?_, ?_⟩⟩
    · simp [shutdownResult?, stays, ShutdownCall.result?, repeats]
    · simp [act, stays, stepShutdown, repeats]
    · simp [act, stays, ShutdownPlace.waits, repeats]
    · simp [act, stays, ShutdownPlace.waits, repeats]
  case one_drain =>
    intro request member past signalled action after said call stepped drains
    obtain ⟨number, here⟩ := List.getElem?_of_mem member
    exact sound.draining_of_step here past continued stepped drains

/-- Two starts and two shutdowns are called, and the first start succeeds. -/
def startedTwice : List (Bool × Action) :=
  [.callStart, .callStart, .callShutdown (.ofSeconds 5), .callShutdown (.ofSeconds 9), .start 0, .start 0,
    .start 0, .start 0, .start 0, .start 0, .start 1].map (false, ·)

/-- The second of the shutdowns comes first and drains a service without connections. -/
def stoppedTwice : List (Bool × Action) :=
  [.shutdown 1, .shutdown 0, .shutdown 1, .advance, .advance, .advance, .advance, .shutdown 1, .shutdown 1,
    .shutdown 1, .shutdown 1, .shutdown 1].map (false, ·)

/-- The service between the two. -/
def runningService : Service where
  phase := .running
  socket := .serving
  handle := .armed
  watcher := .watching
  acceptor := .spawned
  pool := [.watcher, .acceptor]
  starts := [.started, .refused .running]
  shutdowns := [{ limit := .ofSeconds 5 }, { limit := .ofSeconds 9 }]

/-- The service after both. -/
def closedService : Service :=
  { runningService with
    phase := .closed
    socket := .released
    handle := .taken
    stop := true
    acceptorDone := true
    acceptor := .ended .finished
    shutdowns := [{ limit := .ofSeconds 5, place := .repeated },
      { limit := .ofSeconds 9, place := .returned true }] }

theorem goesForward_of_run_twice :
    ∃ effects others, (opened (.ofSeconds 30)).run startedTwice = some (runningService, effects) ∧
      runningService.run stoppedTwice = some (closedService, others) ∧
      GoesForward (.ofSeconds 30) startedTwice runningService closedService := by
  have ran : (opened (.ofSeconds 30)).run startedTwice =
      some (runningService, [.join, say .info "server started" []]) := by decide
  have continued : runningService.run stoppedTwice = some (closedService,
      [say .debug "shutdown already requested" [("state", .text "shutting down")],
        .trigger .stop, say .info "listener closed" [], .leave, say .info "server stopped" []]) := by decide
  exact ⟨_, _, ran, continued, goesForward_of_run ran continued⟩

end ServiceHost.Service
