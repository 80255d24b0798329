import ServiceHost.Proofs.Lifecycle.Release

/-!
Retirement: a service that is shut down without ever being started. It frees its socket, has nothing to do with
the wait group, and no start succeeds on it any more.
-/

namespace ServiceHost.Service

open Lifecycle

/-- A service was shut down, or is about to be, and was never started. -/
structure IsRetired (service : Service) : Prop where
  unopened : service.opening? = none
  late : service.phase = .shuttingDown ∨ service.phase = .closed

/-- A service that was shut down within a limit without being started. -/
def withdrawn (service : Service) (limit : Duration) : Service :=
  { service with
    phase := .closed
    stop := true
    socket := .released
    shutdowns := service.shutdowns ++ [{ limit, place := .returned true }] }

variable {signalled : Bool} {action : Action} {limit : Duration} {service before after : Service}
  {effects : List Effect} {call : Nat}

/-- A step binds no socket. -/
theorem Sound.isBound_of_move (sound : before.Sound) (moves : Move signalled before action after effects)
    (bound : after.isBound) : before.isBound := by
  have unbound : (Socket.released != Socket.released) = true → before.isBound = true := nofun
  cases moves with
  | claim here unlocked listening held => rw [isBound, held]; rfl
  | serve here => rw [isBound, sound.socket_carried_of_watching here]; rfl
  | free here place =>
    rw [isBound, bne_iff_ne]
    rintro released
    simp [isBound, Service.moveShutdown, released] at bound
  | release | unwind | abortSpawned => exact unbound bound
  | _ => exact bound

section Retired

/-- No call holds the state lock of a service that no start opened. -/
theorem stateLocked_of_unopened (unopened : service.opening? = none) : service.stateLocked = false := by
  refine List.any_eq_false.mpr fun place member locks => ?_
  exact List.find?_eq_none.mp unopened place member (hasClaimed_of_holdsState locks)

theorem Sound.hasJoined_of_unopened (sound : service.Sound) (unopened : service.opening? = none) :
    service.hasJoined = false := by
  have none : service.outline.opening = none := unopened
  rw [sound.hasJoined_eq, Outline.hasJoined, none]
  rfl

/-- A service that was never started and is shut down stays so. -/
theorem IsRetired.move (retired : before.IsRetired) (sound : before.Sound)
    (moves : Move signalled before action after effects) : after.IsRetired := by
  obtain ⟨unopened, late⟩ := retired
  refine ⟨?_, ?_⟩
  · rcases moves.starts_eq sound with kept | called | ⟨call, old, new, _, here, follows, set⟩
    · rw [opening?, kept]
      exact unopened
    · rw [opening?, called, Roster.find?_snoc rfl]
      exact unopened
    · have unclaimed : old.hasClaimed = false := by
        rw [Bool.eq_false_iff]
        exact List.find?_eq_none.mp unopened old (List.mem_of_getElem? here)
      have stays : new.hasClaimed = false := by
        rw [Bool.eq_false_iff]
        intro claims
        rcases follows.hasClaimed_or claims with claimed | ⟨_, listening⟩
        · rw [claimed] at unclaimed
          cases unclaimed
        · rw [listening] at late
          rcases late with same | same <;> cases same
      rw [opening?, set, Roster.find?_set_of_unmarked here unclaimed stays]
      exact unopened
  · have forward := sound.rank_le_of_move moves
    rcases late with same | same
    all_goals
      rw [same] at forward
      cases phase : after.phase <;> simp_all [Phase.rank]

/-- A service that is closed and was never started has released its socket. -/
theorem IsRetired.isBound_of_closed (retired : service.IsRetired) (sound : service.Sound)
    (closed : service.phase = .closed) : service.isBound = false := by
  have law : service.phase = Outline.phaseOf service.opening? service.closing? := sound.outline.phase_eq
  have settled : service.closing?.any ShutdownPlace.hasSettled := by
    rw [closed, retired.unopened] at law
    cases closing : service.closing? with
    | none =>
      rw [closing] at law
      cases law
    | some place =>
      rw [closing, Outline.phaseOf] at law
      split at law
      · rename_i hasClosed
        cases place <;> first | rfl | cases hasClosed
      · cases law
  have released : service.socket = if service.closing?.any ShutdownPlace.hasSettled then .released else .held :=
    sound.outline.unclaimed retired.unopened
  rw [isBound, released, if_pos settled]
  rfl

/-- A step of a service that was never started and is shut down neither joins nor leaves the wait group. -/
theorem IsRetired.stays_out_of_move (retired : before.IsRetired) (sound : before.Sound)
    (moves : Move signalled before action after effects) : .join ∉ effects ∧ .leave ∉ effects := by
  have unjoined := sound.hasJoined_of_unopened retired.unopened
  have stays := (sound.move moves).hasJoined_of_unopened (retired.move sound moves).unopened
  cases sound.ledger moves with
  | silent | trigger | say => simp
  | join _ joined =>
    rw [joined] at stays
    cases stays
  | leave _ _ joined =>
    rw [joined] at unjoined
    cases unjoined

/-- No start ever succeeds on such a service. -/
theorem IsRetired.startResultOf? (retired : service.IsRetired) {result : Except ServerError Unit}
    (returned : service.startResultOf? call = some result) :
    ∃ phase, result = .error (.invalidState "start" phase) := by
  obtain ⟨place, here, returned⟩ := Option.bind_eq_some_iff.mp returned
  cases place with
  | started => exact absurd rfl (List.find?_eq_none.mp retired.unopened _ (List.mem_of_getElem? here))
  | refused phase => exact ⟨phase, (Option.some.inj returned).symm⟩
  | _ => cases returned

theorem IsRetired.step_start (retired : service.IsRetired) (here : service.starts[call]? = some .called)
    (signalled : Bool) :
    service.step signalled (.start call) = some (service.moveStart call (.refused service.phase), []) := by
  have busy : service.phase ≠ .listening := by
    rcases retired.late with same | same <;> simp [same]
  have unlocked := stateLocked_of_unopened retired.unopened
  simp [step, act, here, stepStart, unlocked, busy]

/-- A listening service that no start opened is shut down at once. -/
theorem run_withdrawn (unopened : service.opening? = none) (listening : service.phase = .listening)
    (held : service.socket = .held) (limit : Duration) (signalled : Bool) :
    service.run ((.callShutdown limit :: List.replicate 6 (.shutdown service.shutdowns.length)).map
      (signalled, ·)) = some (service.withdrawn limit, [.trigger .stop, say .info "server stopped" []]) := by
  have free (next : Service) (same : next.starts = service.starts) : next.stateLocked = false :=
    stateLocked_of_unopened (by rw [opening?, same]; exact unopened)
  have unstarted : (Phase.listening == Phase.running) = false := rfl
  simp [run, step, act, hear, stepShutdown, moveShutdown, Roster.modify_snoc, free, listening, held, unstarted,
    withdrawn, farewell, say]

end Retired

end ServiceHost.Service
