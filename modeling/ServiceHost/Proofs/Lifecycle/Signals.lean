import ServiceHost.Proofs.Lifecycle.Sound

/-!
Signals of a service: which steps trigger one of the signals that a service holds, and which steps ask it to
shut down. A service triggers the two signals of its own, each by a shutdown of it, and never the shared one.
-/

namespace ServiceHost

open Lifecycle

/-- Does no one but the service hold the signal? -/
def Lifecycle.Signal.isPrivate : Signal → Bool
  | .shared => false
  | .stop => true
  | .forceClose => true

theorem Lifecycle.Signal.eq_shared {signal : Signal} (held : signal.isPrivate = false) : signal = .shared := by
  cases signal with
  | shared => rfl
  | stop | forceClose => cases held

namespace Service

/-- Has the service triggered a signal itself? -/
def hasTriggered (service : Service) : Signal → Bool
  | .shared => false
  | .stop => service.stop
  | .forceClose => service.forceClose

variable {signalled : Bool} {action : Action} {limit : Duration} {service before after : Service}
  {effects : List Effect} {actions : List (Bool × Action)} {signal : Signal}

theorem Move.acted_of_trigger (moves : Move signalled before action after effects)
    (triggers : .trigger signal ∈ effects) :
    signal.isPrivate ∧ after.hasTriggered signal ∧ ∃ call, action = .shutdown call := by
  cases moves with
  | halt | force =>
    obtain rfl := Effect.trigger.inj (List.mem_singleton.mp triggers)
    exact ⟨rfl, rfl, _, rfl⟩
  | @leave call request started drained =>
    cases started <;> simp at triggers
  | @giveBack call request drained =>
    cases drained <;> simp [farewell, say] at triggers
  | @release ending =>
    cases ending <;> simp [parting, say] at triggers
  | @unwind ending =>
    cases ending <;> simp [lament, alas, say] at triggers
  | _ => simp [say, alas] at triggers

/-- What a service has triggered is what it had triggered before a step and what the step triggers. -/
theorem Move.hasTriggered_iff (moves : Move signalled before action after effects) :
    after.hasTriggered signal ↔ before.hasTriggered signal ∨ .trigger signal ∈ effects := by
  constructor
  · intro triggered
    cases moves with
    | halt | force =>
      cases signal with
      | shared => cases triggered
      | stop | forceClose => simp_all [hasTriggered, Service.moveShutdown]
    | _ => exact .inl triggered
  · rintro (already | triggers)
    · cases moves with
      | halt | force =>
        cases signal with
        | shared => cases already
        | stop | forceClose => simp_all [hasTriggered, Service.moveShutdown]
      | _ => exact already
    · exact (moves.acted_of_trigger triggers).2.1

/-- A step that asks a service to shut down: of a caller, or of the watcher that heard the cancellation or
the triggered signal. -/
def Asks : Bool × Action → Prop
  | (_, .callShutdown _) => True
  | (_, .hearCancellation) => True
  | (signalled, .hearSignal) => signalled = true
  | _ => False

/-- The first shutdown of a service is asked for by a step that asks for it. -/
theorem Move.asks (moves : Move signalled before action after effects) (asked : after.shutdowns ≠ []) :
    before.shutdowns ≠ [] ∨ Asks (signalled, action) := by
  by_cases fresh : before.shutdowns = []
  · right
    cases moves with
    | callShutdown | hearCancellation => exact trivial
    | hearSignal triggered => exact triggered
    | latch here | again here | halt here | drain here | free here | settle here | force here | close here
    | leave here | giveBack here | expire here | forsake here | abortShutting _ _ here =>
      rw [fresh] at here
      cases here
    | _ => exact absurd fresh asked
  · exact .inl fresh

/-- A service on which a shutdown was called was asked to shut down. -/
theorem asks_of_run (ran : (opened limit).run actions = some (service, effects))
    (asked : service.shutdowns ≠ []) : ∃ taken ∈ actions, Asks taken := by
  refine history_induction (motive := fun actions service _ =>
    service.shutdowns ≠ [] → ∃ taken ∈ actions, Asks taken) (by simp [opened]) ?_ ran asked
  intro actions signalled action before after said effects _ _ moves earlier asked
  rcases moves.asks asked with already | asks
  · obtain ⟨taken, present, asks⟩ := earlier already
    exact ⟨taken, List.mem_append_left _ present, asks⟩
  · exact ⟨(signalled, action), by simp, asks⟩

theorem shutdown_of_hasTriggered (ran : (opened limit).run actions = some (service, effects))
    (triggered : service.hasTriggered signal) : ∃ signalled call, (signalled, .shutdown call) ∈ actions := by
  refine history_induction (motive := fun actions service _ =>
    service.hasTriggered signal → ∃ signalled call, (signalled, .shutdown call) ∈ actions) ?_ ?_ ran triggered
  · intro triggered
    cases signal <;> cases triggered
  · intro actions signalled action before after said effects _ _ moves earlier triggered
    rcases moves.hasTriggered_iff.mp triggered with already | triggers
    · obtain ⟨flag, call, present⟩ := earlier already
      exact ⟨flag, call, List.mem_append_left _ present⟩
    · obtain ⟨_, _, call, rfl⟩ := moves.acted_of_trigger triggers
      exact ⟨signalled, call, by simp⟩

theorem shutdowns_ne_nil_of_closing? (closing : service.closing? ≠ none) : service.shutdowns ≠ [] := by
  intro fresh
  rw [closing?, fresh] at closing
  exact closing rfl

/-- A shutdown was called on a service that does not listen or run any more. -/
theorem Sound.shutdowns_ne_nil (sound : service.Sound)
    (late : service.phase = .shuttingDown ∨ service.phase = .closed) : service.shutdowns ≠ [] :=
  shutdowns_ne_nil_of_closing? fun unasked => sound.outline.not_late unasked late

/-- A shutdown was called on a service that has triggered a signal. -/
theorem Sound.shutdowns_ne_nil_of_hasTriggered (sound : service.Sound) (triggered : service.hasTriggered signal) :
    service.shutdowns ≠ [] := by
  refine shutdowns_ne_nil_of_closing? fun unasked => ?_
  cases signal with
  | shared => cases triggered
  | stop =>
    have law : service.stop = service.closing?.any ShutdownPlace.hasHalted := sound.outline.stop_eq
    rw [unasked] at law
    exact absurd (law.symm.trans triggered) Bool.false_ne_true
  | forceClose =>
    have law : service.closing?.any ShutdownPlace.hasForced := sound.outline.forced triggered
    rw [unasked] at law
    cases law

end Service

end ServiceHost
