import ServiceHost.Proofs.Lifecycle.Drain
import ServiceHost.Shutdown.WaitGroup

/-!
Membership: a started service is in the wait group from the step that joins it to the step that leaves it.
Each of the two steps is taken at most once.
-/

namespace ServiceHost.Service

open Lifecycle

/-- Has a start joined the wait group? -/
def hasJoined (service : Service) : Bool := service.starts.any StartPlace.hasJoined

/-- Has the shutdown of a started service left the wait group? -/
def hasLeft (service : Service) : Bool :=
  service.hasJoined && service.shutdowns.any fun request => request.place.hasLeft

/-- Is the service in the wait group? -/
def isAboard (service : Service) : Bool := service.hasJoined && !service.hasLeft

/-- A service has neither joined nor left. -/
structure Keeps (before after : Service) : Prop where
  joined : after.hasJoined = before.hasJoined
  left : after.hasLeft = before.hasLeft

/-- What a step means for the wait group: nothing, to join it or to leave it. -/
inductive Ledger (before after : Service) (action : Action) : List Effect → Prop where
  | silent (keeps : Keeps before after) : Ledger before after action []
  | trigger {signal : Signal} (keeps : Keeps before after) : Ledger before after action [.trigger signal]
  | say {entry : Log.Entry} (keeps : Keeps before after) (other : entry ≠ WaitGroup.belowZero) :
      Ledger before after action [.say entry]
  | join (unjoined : before.hasJoined = false) (joined : after.hasJoined = true)
      (aboard : after.hasLeft = false) : Ledger before after action [.join]
  | leave {call : Nat} {drained : Bool} (acted : action = .shutdown call)
      (closed : before.shutdownPlace? call = some (.closed true drained)) (joined : before.hasJoined = true)
      (stays : after.hasJoined = true) (aboard : before.hasLeft = false) (left : after.hasLeft = true) :
      Ledger before after action [.leave]

variable {signalled : Bool} {action : Action} {limit : Duration} {service before after next last : Service}
  {effects said others : List Effect} {actions later : List (Bool × Action)} {call : Nat}

theorem entry_ne_belowZero {level : Log.Level} {message : String} {fields : Log.Fields}
    (differs : message ≠ WaitGroup.belowZero.message) :
    (⟨level, message, fields⟩ : Log.Entry) ≠ WaitGroup.belowZero :=
  fun same => differs (congrArg Log.Entry.message same)

/-- To have joined is to have joined by the start that took the socket. -/
theorem Sound.hasJoined_eq (sound : service.Sound) : service.hasJoined = service.outline.hasJoined := by
  have implies (place : StartPlace) (joined : place.hasJoined) : place.hasClaimed := by
    cases place <;> first | rfl | cases joined
  have opening : service.outline.opening = service.starts.find? StartPlace.hasClaimed := rfl
  rw [Outline.hasJoined, opening]
  cases opened : service.starts.find? StartPlace.hasClaimed with
  | none =>
    refine List.any_eq_false.mpr fun place member joined => ?_
    exact List.find?_eq_none.mp opened place member (implies place joined)
  | some place =>
    obtain ⟨claimed, number, found⟩ := Roster.find?_eq_some opened
    exact (sound.soleStart.soleAt found claimed).any_eq found implies

theorem hasJoined_of_getElem? {place : StartPlace} (here : service.starts[call]? = some place)
    (joined : place.hasJoined) : service.hasJoined = true :=
  List.any_eq_true.mpr ⟨place, List.mem_of_getElem? here, joined⟩

theorem Keeps.of_shutdowns (joined : after.hasJoined = before.hasJoined)
    (shutdowns : after.shutdowns = before.shutdowns) : Keeps before after where
  joined := joined
  left := by rw [hasLeft, hasLeft, joined, shutdowns]

/-- A start moves on that has not joined. -/
theorem Keeps.start {old new : StartPlace} (here : before.starts[call]? = some old)
    (oldStays : old.hasJoined = false) (newStays : new.hasJoined = false)
    (starts : next.starts = before.starts) (shutdowns : next.shutdowns = before.shutdowns) :
    Keeps before (next.moveStart call new) := by
  refine .of_shutdowns ?_ shutdowns
  rw [hasJoined, moveStart, starts]
  exact Roster.any_set_of_unmarked here oldStays newStays

/-- A start moves on that has joined. -/
theorem Keeps.startJoined {old new : StartPlace} (here : before.starts[call]? = some old)
    (joined : old.hasJoined) (stays : new.hasJoined)
    (starts : next.starts = before.starts) (shutdowns : next.shutdowns = before.shutdowns) :
    Keeps before (next.moveStart call new) := by
  have found : next.starts[call]? = some old := by rwa [starts]
  refine .of_shutdowns ?_ shutdowns
  rw [hasJoined_of_getElem? here joined, hasJoined_of_getElem? (getElem?_moveStart found) stays]

/-- A shutdown moves on that does not leave. -/
theorem Keeps.shutdown {request : ShutdownCall} {old new : ShutdownPlace}
    (here : before.shutdowns[call]? = some request) (place : request.place = old)
    (oldStays : old.hasLeft = false) (newStays : new.hasLeft = false)
    (starts : next.starts = before.starts) (shutdowns : next.shutdowns = before.shutdowns) :
    Keeps before (next.moveShutdown call new) := by
  subst place
  have found : next.shutdowns[call]? = some request := by rwa [shutdowns]
  have joined : (next.moveShutdown call new).hasJoined = before.hasJoined := by
    rw [hasJoined, moveShutdown, starts]
    rfl
  refine ⟨joined, ?_⟩
  rw [hasLeft, joined, shutdowns_moveShutdown found, shutdowns]
  exact congrArg _ (Roster.any_set_of_unmarked here oldStays newStays)

theorem Keeps.interrupt {request : ShutdownCall} {new : ShutdownPlace}
    (here : before.shutdowns[call]? = some request) (waits : request.place.waits)
    (newStays : new.hasLeft = false) (starts : next.starts = before.starts)
    (shutdowns : next.shutdowns = before.shutdowns) : Keeps before (next.moveShutdown call new) := by
  have stays : request.place.hasLeft = false := by
    cases place : request.place <;> first | rfl | (rw [place] at waits; cases waits)
  exact .shutdown here rfl stays newStays starts shutdowns

theorem Keeps.callShutdown {request : ShutdownCall} (called : request.place = .called)
    (starts : after.starts = before.starts) (shutdowns : after.shutdowns = before.shutdowns ++ [request]) :
    Keeps before after := by
  have stays : request.place.hasLeft = false := by rw [called]; rfl
  have joined : after.hasJoined = before.hasJoined := by rw [hasJoined, starts, hasJoined]
  refine ⟨joined, ?_⟩
  rw [hasLeft, hasLeft, joined, shutdowns, List.any_append, List.any_cons, List.any_nil, stays,
    Bool.or_false, Bool.or_false]

/-- While a start holds the state lock, no shutdown has left. -/
theorem Sound.any_hasLeft_of_locked (sound : service.Sound)
    (locked : service.outline.opening.any StartPlace.holdsState) :
    (service.shutdowns.any fun request => request.place.hasLeft) = false := by
  refine List.any_eq_false.mpr fun request member left => ?_
  rw [sound.unasked (sound.outline.locked locked) request member] at left
  cases left

/-- The shutdown that acts tells whether any has left. -/
theorem Sound.any_hasLeft (sound : service.Sound) {request : ShutdownCall} {place : ShutdownPlace}
    (here : service.shutdowns[call]? = some request) (isThere : request.place = place)
    (active : place.isActive) :
    (service.shutdowns.any fun request => request.place.hasLeft) = place.hasLeft := by
  subst isThere
  exact (sound.soleShutdown.soleAt here active).any_eq here fun _ left =>
    ShutdownPlace.isActive_of_hasLeft left

/-- What each step means for the wait group. -/
theorem Sound.ledger (sound : before.Sound) (moves : Move signalled before action after effects) :
    Ledger before after action effects := by
  have soundAfter := sound.move moves
  cases moves with
  | callStart =>
    refine .silent (.of_shutdowns ?_ rfl)
    simp [hasJoined, StartPlace.hasJoined, StartPlace.hasArmed, StartPlace.hasClaimed]
  | callShutdown limit => exact .silent (.callShutdown rfl rfl rfl)
  | hearCancellation | hearSignal => exact .say (.callShutdown rfl rfl rfl) (entry_ne_belowZero (by decide))
  | claim here | refuse here | arm here => exact .silent (.start here rfl rfl rfl rfl)
  | @join call here =>
    have opening : before.outline.opening = some .armed := sound.opening?_eq here rfl
    have unjoined : before.hasJoined = false := by
      rw [sound.hasJoined_eq, Outline.hasJoined, opening]
      rfl
    have unleft := sound.any_hasLeft_of_locked (by rw [opening]; rfl)
    refine .join unjoined (hasJoined_of_getElem? (getElem?_moveStart here) rfl) ?_
    rw [hasLeft, Service.moveStart, unleft, Bool.and_false]
  | launch here | watch here => exact .silent (.startJoined here rfl rfl rfl rfl)
  | serve here => exact .say (.startJoined here rfl rfl rfl rfl) (entry_ne_belowZero (by decide))
  | latch here place | drain here place | free here place | settle here place | close here place =>
    exact .silent (.shutdown here place rfl rfl rfl rfl)
  | halt here place | force here place => exact .trigger (.shutdown here place rfl rfl rfl rfl)
  | again here place => exact .say (.shutdown here place rfl rfl rfl rfl) (entry_ne_belowZero (by decide))
  | @leave call request started drained here place =>
    have active : request.isActive := by rw [ShutdownCall.isActive, place]; rfl
    have closing : before.outline.closing = some (.closed started drained) :=
      place ▸ sound.closing?_eq here active
    have suits : started = before.hasJoined := by
      rw [sound.hasJoined_eq]
      exact eq_of_beq (sound.outline.suits _ closing)
    have unleft := sound.any_hasLeft here place rfl
    have left := soundAfter.any_hasLeft (getElem?_moveShutdown here (.left drained)) rfl rfl
    cases started with
    | true =>
      have closed : before.shutdownPlace? call = some (.closed true drained) := by
        rw [shutdownPlace?, here, Option.map_some, place]
      refine .leave rfl closed suits.symm suits.symm ?_ ?_
      · rw [hasLeft, unleft, ShutdownPlace.hasLeft, Bool.and_false]
      · rw [hasLeft, left, Bool.and_eq_true]
        exact ⟨suits.symm, rfl⟩
    | false =>
      have unjoined : (before.moveShutdown call (.left drained)).hasJoined = false := suits.symm
      refine .silent ⟨rfl, ?_⟩
      rw [hasLeft, hasLeft, unjoined, ← suits, Bool.false_and, Bool.false_and]
  | @giveBack call request drained here place =>
    have left := sound.any_hasLeft here place rfl
    have stays := soundAfter.any_hasLeft (getElem?_moveShutdown here (.returned drained)) rfl rfl
    have keeps : Keeps before (before.moveShutdown call (.returned drained)) := by
      refine ⟨rfl, ?_⟩
      rw [hasLeft, hasLeft, left, stays]
      rfl
    unfold farewell
    split
    · exact .say keeps (entry_ne_belowZero (by decide))
    · exact .say keeps (entry_ne_belowZero (by decide))
  | expire here waits | forsake here waits | abortShutting told shutting here waits =>
    exact .silent (.interrupt here waits rfl rfl rfl)
  | panicWatcher => exact .say ⟨rfl, rfl⟩ (entry_ne_belowZero (by decide))
  | @release ending leaving =>
    cases ending with
    | finished | failed cause => exact .say ⟨rfl, rfl⟩ (entry_ne_belowZero (by decide))
    | panicked | aborted => exact .silent ⟨rfl, rfl⟩
  | @unwind ending unwinding =>
    cases ending with
    | panicked => exact .say ⟨rfl, rfl⟩ (entry_ne_belowZero (by decide))
    | finished | failed | aborted => exact .silent ⟨rfl, rfl⟩
  | _ => exact .silent ⟨rfl, rfl⟩

/-- In every run a service joins the wait group as often as it has joined, and leaves it as often as it has
left. -/
theorem count_of_run (ran : (opened limit).run actions = some (service, effects)) :
    effects.count .join = service.hasJoined.toNat ∧ effects.count .leave = service.hasLeft.toNat := by
  refine history_induction (motive := fun _ service effects =>
    effects.count .join = service.hasJoined.toNat ∧ effects.count .leave = service.hasLeft.toNat) ?_ ?_ ran
  · exact ⟨rfl, rfl⟩
  · intro actions signalled action before after said effects _ sound moves counted
    rw [List.count_append, List.count_append, counted.1, counted.2]
    cases sound.ledger moves with
    | silent keeps => exact ⟨by rw [keeps.joined]; rfl, by rw [keeps.left]; rfl⟩
    | trigger keeps => exact ⟨by rw [keeps.joined]; rfl, by rw [keeps.left]; rfl⟩
    | say keeps other => exact ⟨by rw [keeps.joined]; rfl, by rw [keeps.left]; rfl⟩
    | join unjoined joined aboard =>
      have unleft : before.hasLeft = false := by rw [hasLeft, unjoined, Bool.false_and]
      rw [unjoined, joined, aboard, unleft]
      exact ⟨rfl, rfl⟩
    | leave acted closed joined stays aboard left =>
      rw [joined, stays, aboard, left]
      exact ⟨rfl, rfl⟩

theorem Sound.phase_of_hasClosed (sound : service.Sound) {request : ShutdownCall}
    (here : service.shutdowns[call]? = some request) (active : request.isActive)
    (closed : request.place.hasClosed) : service.phase = .closed := by
  have law : service.phase = Outline.phaseOf service.opening? service.closing? := sound.outline.phase_eq
  rw [law, sound.closing?_eq here active, Outline.phaseOf, if_pos closed]

/-- A service that has left is closed. -/
theorem Sound.phase_of_hasLeft (sound : service.Sound) (left : service.hasLeft) :
    service.phase = .closed := by
  obtain ⟨_, someLeft⟩ := Bool.and_eq_true_iff.mp left
  obtain ⟨request, member, left⟩ := List.any_eq_true.mp someLeft
  obtain ⟨call, here⟩ := List.getElem?_of_mem member
  exact sound.phase_of_hasClosed here (ShutdownPlace.isActive_of_hasLeft left)
    (ShutdownPlace.hasClosed_of_hasLeft left)

end ServiceHost.Service
