import ServiceHost.Proofs.Lifecycle.Membership

/-!
Releases: a service that is closed has given its address up, unless the deadline of its shutdown elapsed before
the acceptor was done. Then the socket outlives the service, and a connection may still be accepted.
-/

namespace ServiceHost.Service

open Lifecycle

/-- In a run, the deadline of a shutdown elapsed before the acceptor was marked as done. -/
def CutShort (service : Service) (actions : List (Bool × Action)) : Prop :=
  ∃ first signalled call rest before said, actions = first ++ (signalled, .expire call) :: rest ∧
    service.run first = some (before, said) ∧ before.acceptorDone = false

/-- A service accepts no more connections: its acceptor is done, or there is none and the socket is released. -/
def HasWithdrawn (service : Service) : Prop :=
  service.acceptor.isDone ∨ service.acceptor = .absent ∧ service.socket = .released

/-- What a closed service leaves behind, at the end of a run and of any continuation. -/
structure GivesAddressUp (actions : List (Bool × Action)) (service : Service) : Prop where
  /-- The socket is released. Only an acceptor that panicked or was aborted may be about to do so. -/
  released : (∀ taken ∈ actions, taken.2 ≠ .panicAcceptor ∧ taken.2 ≠ .abortAcceptor) →
    service.socket = .released
  unwinding : ∀ later last others, service.run later = some (last, others) → last.socket ≠ .released →
    ∃ ending, last.acceptor = .unwinding ending
  /-- No connection is accepted any more. -/
  unaccepting : ∀ later last others, service.run later = some (last, others) →
    ∀ signalled, last.step signalled .accept = none

variable {signalled : Bool} {action : Action} {limit : Duration} {service before after last : Service}
  {effects said others : List Effect} {actions later : List (Bool × Action)} {call : Nat}

theorem CutShort.snoc (cutShort : CutShort service actions) (taken : Bool × Action) :
    CutShort service (actions ++ [taken]) := by
  obtain ⟨first, signalled, call, rest, before, said, rfl, reached⟩ := cutShort
  exact ⟨first, signalled, call, rest ++ [taken], before, said, by simp, reached⟩

section Withdrawal

/-- An acceptor is not done as long as there is none. -/
theorem Sound.acceptor_absent_of_watching (sound : service.Sound)
    (here : service.starts[call]? = some .watching) : service.acceptor = .absent := by
  have opening : service.outline.opening = some .watching := sound.opening?_eq here rfl
  exact sound.outline.acceptor_absent.mpr (by simp [opening])

/-- A socket that no start took is in the service until it is released. -/
theorem Sound.socket_carried_of_watching (sound : service.Sound)
    (here : service.starts[call]? = some .watching) : service.socket = .carried :=
  sound.outline.carried .watching (sound.opening?_eq here rfl) (by simp)

/-- An acceptor that is done stays done. -/
theorem Sound.isDone_of_move (sound : before.Sound) (moves : Move signalled before action after effects)
    (done : before.acceptor.isDone) : after.acceptor.isDone := by
  have elsewhere {acceptor : Acceptor} (isThere : before.acceptor = acceptor) (undone : acceptor.isDone = false) :
      after.acceptor.isDone := by
    rw [isThere, undone] at done
    cases done
  cases moves with
  | serve here => exact elsewhere (sound.acceptor_absent_of_watching here) rfl
  | begin there | look there | release there | mark there => exact elsewhere there rfl
  | accept there | skip there | park there | wake there | fail cause there => exact elsewhere there rfl
  | unwind | panicAcceptor | abortSpawned | abortParked => rfl
  | _ => exact done

/-- A service that has no acceptor and has released its socket never gets one. -/
theorem Sound.isAbsent_of_move (sound : before.Sound) (moves : Move signalled before action after effects)
    (absent : before.acceptor = .absent) (released : before.socket = .released) :
    after.acceptor = .absent ∧ after.socket = .released := by
  have elsewhere {acceptor : Acceptor} (isThere : before.acceptor = acceptor) (present : acceptor ≠ .absent) :
      after.acceptor = .absent ∧ after.socket = .released :=
    absurd (isThere.symm.trans absent) present
  cases moves with
  | claim here unlocked listening held =>
    rw [released] at held
    cases held
  | serve here =>
    have carried := sound.socket_carried_of_watching here
    rw [released] at carried
    cases carried
  | free here place =>
    refine ⟨absent, ?_⟩
    simp [Service.moveShutdown, released]
  | begin there | look there | release there | mark there | unwind there => exact elsewhere there (by simp)
  | accept there | skip there | park there | wake there | fail cause there => exact elsewhere there (by simp)
  | panicAcceptor there | abortSpawned told there | abortParked told there => exact elsewhere there (by simp)
  | _ => exact ⟨absent, released⟩

theorem HasWithdrawn.move (withdrawn : before.HasWithdrawn) (sound : before.Sound)
    (moves : Move signalled before action after effects) : after.HasWithdrawn := by
  rcases withdrawn with done | ⟨absent, released⟩
  · exact .inl (sound.isDone_of_move moves done)
  · exact .inr (sound.isAbsent_of_move moves absent released)

theorem HasWithdrawn.run (withdrawn : service.HasWithdrawn) (sound : service.Sound)
    (continued : service.run later = some (last, others)) : last.HasWithdrawn :=
  sound.run_induction (motive := HasWithdrawn) (fun sound moves withdrawn => withdrawn.move sound moves)
    withdrawn continued

theorem HasWithdrawn.step_accept (withdrawn : service.HasWithdrawn) (signalled : Bool) :
    service.step signalled .accept = none := by
  have idle : service.acceptor ≠ .polling := by
    intro polling
    rcases withdrawn with done | ⟨absent, _⟩
    · rw [polling] at done
      cases done
    · rw [polling] at absent
      cases absent
  rw [step_eq_none_iff, act, fromPolling, if_neg idle]

theorem HasWithdrawn.released_or_unwinding (withdrawn : service.HasWithdrawn) (sound : service.Sound) :
    service.socket = .released ∨ ∃ ending, service.acceptor = .unwinding ending := by
  rcases withdrawn with done | ⟨_, released⟩
  · exact sound.released_of_isDone done
  · exact .inl released

end Withdrawal

section Closed

theorem Move.acceptorDone (moves : Move signalled before action after effects) (done : before.acceptorDone) :
    after.acceptorDone := by
  cases moves with
  | mark | panicAcceptor | abortParked => rfl
  | _ => exact done

/-- Where a deadline elapsed, the acceptor is done unless it was cut short. -/
theorem acceptorDone_of_hasExpired (ran : (opened limit).run actions = some (service, effects)) :
    ∀ (call : Nat) (request : ShutdownCall), service.shutdowns[call]? = some request →
      request.place.hasExpired → service.acceptorDone ∨ CutShort (opened limit) actions := by
  refine history_induction (motive := fun actions service _ =>
    ∀ (call : Nat) (request : ShutdownCall), service.shutdowns[call]? = some request →
      request.place.hasExpired → service.acceptorDone ∨ CutShort (opened limit) actions) (by simp [opened]) ?_ ran
  intro actions signalled action before after said effects reached _ moves earlier call request here expired
  have extend (known : before.acceptorDone ∨ CutShort (opened limit) actions) :
      after.acceptorDone ∨ CutShort (opened limit) (actions ++ [(signalled, action)]) :=
    known.imp moves.acceptorDone (·.snoc _)
  rcases moves.shutdown_cameFrom here with called | present | ⟨old, found, _, follows, movedBy⟩
  · rw [called] at expired
    cases expired
  · exact extend (earlier call request present expired)
  · rcases follows.hasExpired_or expired with place | already
    · rw [place] at movedBy
      obtain rfl : action = .expire call := movedBy
      cases done : before.acceptorDone with
      | true => exact extend (.inl done)
      | false => exact .inr ⟨actions, signalled, call, [], before, said, rfl, reached, done⟩
    · exact extend (earlier call old found already)

/-- A shutdown that closed the service has seen it drained, or its deadline elapsed. -/
theorem hasDrained_or_hasExpired {place : ShutdownPlace} (closed : place.hasClosed) :
    place.hasDrained ∨ place.hasExpired := by
  cases place with
  | closed _ drained | left drained | returned drained =>
    cases drained
    · exact .inr rfl
    · exact .inl rfl
  | _ => cases closed

theorem hasWithdrawn_of_closed (ran : (opened limit).run actions = some (service, effects))
    (closed : service.phase = .closed) (inTime : ¬CutShort (opened limit) actions) : service.HasWithdrawn := by
  have sound := sound_of_run ran
  have law : service.phase = Outline.phaseOf service.opening? service.closing? := sound.outline.phase_eq
  rw [closed] at law
  cases closing : service.closing? with
  | none =>
    rw [closing, Outline.phaseOf] at law
    split at law <;> cases law
  | some place =>
    have hasClosed : place.hasClosed := by
      by_contra open_
      rw [closing, Outline.phaseOf, if_neg open_] at law
      cases law
    obtain ⟨request, leads, rfl⟩ := Option.map_eq_some_iff.mp closing
    obtain ⟨active, call, here⟩ := Roster.find?_eq_some leads
    have outlineClosing : service.outline.closing = some request.place := closing
    cases opened : service.outline.opening with
    | none =>
      have released := sound.outline.unclaimed opened
      have settled : request.place.hasSettled := by
        cases place : request.place <;> rw [place] at hasClosed <;> first | rfl | cases hasClosed
      rw [outlineClosing, Option.any_some, if_pos settled] at released
      exact .inr ⟨sound.outline.acceptor_absent.mpr (by simp [opened]), released⟩
    | some start =>
      have unlocked := sound.outline.unlocked outlineClosing
      rw [opened, Option.any_some] at unlocked
      have joined : service.outline.hasJoined := by
        rw [Outline.hasJoined, opened]
        exact start.hasJoined_of_unlocked (List.find?_some opened) unlocked
      refine .inl (sound.outline.done ?_)
      rcases hasDrained_or_hasExpired hasClosed with drained | expired
      · exact (sound.outline.quiet (sound.closing?_hasDrained here drained) joined).2
      · exact (acceptorDone_of_hasExpired ran call request here expired).resolve_right inTime

/-- Where no deadline elapsed before the acceptor was done, a service that is closed or has left the wait group
has given its address up. -/
theorem givesAddressUp_of_closed (ran : (opened limit).run actions = some (service, effects))
    (closed : service.phase = .closed ∨ service.hasLeft) (inTime : ¬CutShort (opened limit) actions) :
    GivesAddressUp actions service := by
  have sound := sound_of_run ran
  have withdrawn := hasWithdrawn_of_closed ran (closed.elim id sound.phase_of_hasLeft) inTime
  constructor
  case released =>
    intro undisturbed
    exact released_of_undisturbed ran undisturbed (withdrawn.released_or_unwinding sound)
  case unwinding =>
    intro later last others continued bound
    have stays := withdrawn.run sound continued
    exact (stays.released_or_unwinding (sound.run continued)).resolve_left bound
  case unaccepting =>
    intro later last others continued
    exact (withdrawn.run sound continued).step_accept

theorem givesAddressUp_of_closed_finished :
    (∃ effects, (opened (.ofSeconds 30)).run finishedInTime =
      some (serviceWith .closed false (.returned true) (.finished 1), effects)) ∧
    ¬CutShort (opened (.ofSeconds 30)) finishedInTime ∧
    GivesAddressUp finishedInTime (serviceWith .closed false (.returned true) (.finished 1)) := by
  have ran : (opened (.ofSeconds 30)).run finishedInTime =
      some (serviceWith .closed false (.returned true) (.finished 1),
        [.join, say .info "server started" [], .trigger .stop, say .info "listener closed" [], .leave,
          say .info "server stopped" []]) := by decide
  have inTime : ¬CutShort (opened (.ofSeconds 30)) finishedInTime := by
    rintro ⟨first, signalled, call, rest, before, said, whole, _⟩
    have elapsed : (signalled, .expire call) ∈ finishedInTime := by simp [whole]
    simp [finishedInTime, stoppedWhileServing] at elapsed
  exact ⟨⟨_, ran⟩, inTime, givesAddressUp_of_closed ran (.inl rfl) inTime⟩

/-- The deadline of a shutdown elapses at once, while the acceptor is about to look for a connection. -/
def cutWhilePolling : List (Bool × Action) :=
  [.callStart, .start 0, .start 0, .start 0, .start 0, .start 0, .start 0, .advance, .advance,
    .callShutdown (.ofSeconds 0), .shutdown 0, .shutdown 0, .expire 0, .shutdown 0, .shutdown 0, .shutdown 0].map
    (false, ·)

/-- The service is closed and has left the wait group, and it has its socket and can accept a connection. -/
theorem bound_after_cutShort :
    ∃ service effects, (opened (.ofSeconds 30)).run cutWhilePolling = some (service, effects) ∧
      service.phase = .closed ∧ service.hasLeft ∧ service.socket = .serving ∧
      (service.step false .accept).isSome := by
  obtain ⟨⟨service, effects⟩, ran⟩ := Option.isSome_iff_exists.mp
    (show ((opened (.ofSeconds 30)).run cutWhilePolling).isSome by decide)
  have reached : ((opened (.ofSeconds 30)).run cutWhilePolling).map
      (fun ended => (ended.1.phase, ended.1.hasLeft, ended.1.socket, (ended.1.step false .accept).isSome)) =
        some (.closed, true, .serving, true) := by decide
  simp only [ran, Option.map_some, Option.some.injEq, Prod.mk.injEq] at reached
  exact ⟨service, effects, ran, reached⟩

end Closed

end ServiceHost.Service
