import Mathlib.Data.List.Induction
import ServiceHost.Proofs.Lifecycle.Outline

/-!
Sound services: at most one start ever takes the socket and at most one shutdown ever acts, and the outline
that they amount to is sound. Every reachable service is so.
-/

namespace ServiceHost.Service

open Lifecycle

/-- The place of the start that took the socket. -/
def opening? (service : Service) : Option StartPlace := service.starts.find? StartPlace.hasClaimed

/-- The place of the shutdown that acts. -/
def closing? (service : Service) : Option ShutdownPlace :=
  (service.shutdowns.find? ShutdownCall.isActive).map ShutdownCall.place

/-- The outline of a service. -/
def outline (service : Service) : Outline where
  opening := service.opening?
  closing := service.closing?
  phase := service.phase
  socket := service.socket
  handle := service.handle
  stop := service.stop
  forceClose := service.forceClose
  acceptorDone := service.acceptorDone
  acceptor := service.acceptor
  connections := service.connections

/-- The law of all reachable services. -/
structure Sound (service : Service) : Prop where
  soleStart : Roster.Sole StartPlace.hasClaimed service.starts
  soleShutdown : Roster.Sole ShutdownCall.isActive service.shutdowns
  /-- As long as no shutdown acts, none has looked at the phase. -/
  unasked : service.closing? = none → ∀ request ∈ service.shutdowns, request.place = .called
  outline : service.outline.Sound

variable {signalled : Bool} {service before after : Service} {effects : List Effect} {call : Nat}

theorem Sound.soleStartAt (sound : service.Sound) {place : StartPlace}
    (here : service.starts[call]? = some place) (leads : place.hasClaimed ∨ service.opening? = none) :
    Roster.SoleAt StartPlace.hasClaimed service.starts call := by
  rcases leads with claimed | none
  · exact sound.soleStart.soleAt here claimed
  · exact Roster.soleAt_of_find?_eq_none none call

theorem Sound.soleShutdownAt (sound : service.Sound) {request : ShutdownCall}
    (here : service.shutdowns[call]? = some request)
    (leads : request.isActive ∨ service.closing? = none) :
    Roster.SoleAt ShutdownCall.isActive service.shutdowns call := by
  rcases leads with active | none
  · exact sound.soleShutdown.soleAt here active
  · exact Roster.soleAt_of_find?_eq_none (Option.map_eq_none_iff.mp none) call

/-- A start that took the socket opens the service. -/
theorem Sound.opening?_eq (sound : service.Sound) {place : StartPlace}
    (here : service.starts[call]? = some place) (claimed : place.hasClaimed) :
    service.opening? = some place :=
  (sound.soleStartAt here (.inl claimed)).find?_eq here claimed

/-- A shutdown that acts closes the service. -/
theorem Sound.closing?_eq (sound : service.Sound) {request : ShutdownCall}
    (here : service.shutdowns[call]? = some request) (active : request.isActive) :
    service.closing? = some request.place := by
  rw [closing?, (sound.soleShutdownAt here (.inl active)).find?_eq here active]
  rfl

/-- As long as no call holds the state lock, the start that took the socket does not. -/
theorem opening?_unlocked (unlocked : service.stateLocked = false) :
    service.opening?.any StartPlace.holdsState = false := by
  cases opened : service.opening? with
  | none => rfl
  | some place =>
    have member := List.mem_of_find?_eq_some opened
    have free := List.any_eq_false.mp unlocked place member
    rw [Option.any_some, Bool.eq_false_iff]
    exact free

/-- A start that holds the state lock took the socket. -/
theorem hasClaimed_of_holdsState {place : StartPlace} (locks : place.holdsState) : place.hasClaimed := by
  cases place <;> first | rfl | cases locks

/-- As long as the start that took the socket does not, no call holds the state lock. -/
theorem Sound.stateLocked_of_opening (sound : service.Sound)
    (free : service.opening?.any StartPlace.holdsState = false) : service.stateLocked = false := by
  refine List.any_eq_false.mpr fun place member locks => ?_
  obtain ⟨number, found⟩ := List.getElem?_of_mem member
  rw [sound.opening?_eq found (hasClaimed_of_holdsState locks), Option.any_some, locks] at free
  cases free

/-- A start that took the socket, or is about to be the first, moves on. -/
theorem Sound.moveStart (sound : before.Sound) {next : Service} {old new : StartPlace}
    (here : before.starts[call]? = some old) (leads : old.hasClaimed ∨ before.opening? = none)
    (claims : new.hasClaimed) (starts : next.starts = before.starts)
    (shutdowns : next.shutdowns = before.shutdowns)
    (law : Outline.Sound { next.outline with opening := some new }) : (next.moveStart call new).Sound := by
  have sole := sound.soleStartAt here leads
  have opening : (next.moveStart call new).opening? = some new := by
    rw [opening?, Service.moveStart, starts, sole.find?_set here, if_pos claims]
  refine ⟨?_, ?_, ?_, ?_⟩
  · rw [Service.moveStart, starts]
    exact (sole.set here).sole
  · rw [Service.moveStart, shutdowns]
    exact sound.soleShutdown
  · rw [closing?, Service.moveStart, shutdowns]
    exact sound.unasked
  · rw [Service.outline, opening]
    exact law

/-- The shutdown that acts, or is about to be the first, moves on. -/
theorem Sound.moveShutdown (sound : before.Sound) {next : Service} {request : ShutdownCall}
    {new : ShutdownPlace} (here : before.shutdowns[call]? = some request)
    (leads : request.isActive ∨ before.closing? = none) (active : new.isActive)
    (starts : next.starts = before.starts) (shutdowns : next.shutdowns = before.shutdowns)
    (law : Outline.Sound { next.outline with closing := some new }) : (next.moveShutdown call new).Sound := by
  have sole := sound.soleShutdownAt here leads
  have moved : (next.moveShutdown call new).shutdowns =
      before.shutdowns.set call { request with place := new } := by
    rw [Service.moveShutdown, shutdowns, Roster.modify_eq_set here]
  have active' : ShutdownCall.isActive { request with place := new } := active
  have closing : (next.moveShutdown call new).closing? = some new := by
    rw [closing?, moved, sole.find?_set here, if_pos active']
    rfl
  refine ⟨?_, ?_, ?_, ?_⟩
  · rw [Service.moveShutdown, starts]
    exact sound.soleStart
  · rw [moved]
    exact (sole.set here).sole
  · simp [closing]
  · rw [Service.outline, closing]
    exact law

/-- The start that took the socket moves on, as the law of its place allows. -/
theorem Sound.advanceStart (sound : before.Sound) {next : Service} {old new : StartPlace}
    (here : before.starts[call]? = some old) (claimed : old.hasClaimed) (claims : new.hasClaimed)
    (starts : next.starts = before.starts) (shutdowns : next.shutdowns = before.shutdowns)
    (law : before.outline.opening = some old → Outline.Sound { next.outline with opening := some new }) :
    (next.moveStart call new).Sound :=
  sound.moveStart here (.inl claimed) claims starts shutdowns (law (sound.opening?_eq here claimed))

/-- The shutdown that acts moves on, as the law of its place allows. -/
theorem Sound.advanceShutdown (sound : before.Sound) {next : Service} {request : ShutdownCall}
    {old new : ShutdownPlace} (here : before.shutdowns[call]? = some request) (place : request.place = old)
    (active : old.isActive) (stays : new.isActive)
    (starts : next.starts = before.starts) (shutdowns : next.shutdowns = before.shutdowns)
    (law : before.outline.closing = some old → Outline.Sound { next.outline with closing := some new }) :
    (next.moveShutdown call new).Sound := by
  have acts : request.isActive := by rwa [ShutdownCall.isActive, place]
  exact sound.moveShutdown here (.inl acts) stays starts shutdowns
    (law (place ▸ sound.closing?_eq here acts))

/-- A shutdown that waits is interrupted. -/
theorem Sound.interruptShutdown (sound : before.Sound) {next : Service} {request : ShutdownCall}
    {new : ShutdownPlace} (here : before.shutdowns[call]? = some request) (waits : request.place.waits)
    (interrupted : new = .expired ∨ new = .abandoned) (starts : next.starts = before.starts)
    (shutdowns : next.shutdowns = before.shutdowns) (kept : next.outline = before.outline) :
    (next.moveShutdown call new).Sound := by
  have active : request.place.isActive := by
    cases place : request.place <;> simp_all [ShutdownPlace.waits, ShutdownPlace.isActive]
  have stays : new.isActive := by
    rcases interrupted with rfl | rfl <;> rfl
  refine sound.advanceShutdown here rfl active stays starts shutdowns fun closing => ?_
  rw [kept]
  exact sound.outline.interrupt closing waits interrupted

/-- No start and no shutdown moves. -/
theorem Sound.keepCalls (sound : before.Sound) (starts : after.starts = before.starts)
    (shutdowns : after.shutdowns = before.shutdowns) (law : after.outline.Sound) : after.Sound := by
  refine ⟨?_, ?_, ?_, law⟩
  · rw [starts]
    exact sound.soleStart
  · rw [shutdowns]
    exact sound.soleShutdown
  · rw [closing?, shutdowns]
    exact sound.unasked

/-- A start is called or refused: the outline stays as it is. -/
theorem Sound.idleStart (sound : before.Sound) {starts : List StartPlace}
    (sole : Roster.Sole StartPlace.hasClaimed starts)
    (kept : starts.find? StartPlace.hasClaimed = before.opening?) : Sound { before with starts } := by
  refine ⟨sole, sound.soleShutdown, sound.unasked, ?_⟩
  rw [Service.outline, opening?, kept]
  exact sound.outline

/-- A shutdown is called or repeated: the outline stays as it is. -/
theorem Sound.idleShutdown (sound : before.Sound) {shutdowns : List ShutdownCall}
    (sole : Roster.Sole ShutdownCall.isActive shutdowns)
    (kept : shutdowns.find? ShutdownCall.isActive = before.shutdowns.find? ShutdownCall.isActive)
    (unasked : before.closing? = none → ∀ request ∈ shutdowns, request.place = .called) :
    Sound { before with shutdowns } := by
  have closing : closing? { before with shutdowns } = before.closing? := by
    rw [closing?, kept]
    rfl
  refine ⟨sound.soleStart, sole, ?_, ?_⟩
  · rw [closing]
    exact unasked
  · rw [Service.outline, closing]
    exact sound.outline

theorem Sound.callShutdown (sound : before.Sound) {request : ShutdownCall}
    (called : request.place = .called) : Sound { before with shutdowns := before.shutdowns ++ [request] } := by
  have idle : request.isActive = false := by rw [ShutdownCall.isActive, called]; rfl
  refine sound.idleShutdown (sound.soleShutdown.snoc idle) (Roster.find?_snoc idle) ?_
  intro none other member
  rcases List.mem_append.mp member with old | new
  · exact sound.unasked none other old
  · rw [List.mem_singleton.mp new]
    exact called

/-- The shutdown of a watcher is a call like any other. -/
theorem Sound.alarmed (sound : before.Sound) : before.alarmed.Sound := by
  have called : Sound { before with
      shutdowns := before.shutdowns ++ [{ limit := before.limit, byWatcher := true }] } :=
    sound.callShutdown rfl
  exact called.keepCalls rfl rfl called.outline

theorem isDrained_iff :
    service.isDrained ↔ ∀ connection ∈ service.connections, connection.isOpen = false := by
  simp [isDrained]

theorem sound_opened (limit : Duration) : (opened limit).Sound where
  soleStart := Roster.sole_nil
  soleShutdown := Roster.sole_nil
  unasked := nofun
  outline := by constructor <;> simp [outline, opening?, closing?, opened, Outline.phaseOf]

/-- Each move keeps a service sound. -/
theorem Sound.move {action : Action} (sound : before.Sound)
    (moves : Move signalled before action after effects) : after.Sound := by
  cases moves with
  | callStart =>
    exact sound.idleStart (sound.soleStart.snoc rfl) (Roster.find?_snoc rfl)
  | callShutdown limit => exact sound.callShutdown rfl
  | claim here unlocked listening held =>
    have unopened := sound.outline.opening_eq_none held
    exact sound.moveStart here (.inr unopened) rfl rfl rfl (sound.outline.claim listening held)
  | refuse here unlocked other =>
    exact sound.idleStart (sound.soleStart.set_of_unmarked here rfl)
      (Roster.find?_set_of_unmarked here rfl rfl)
  | arm here => exact sound.advanceStart here rfl rfl rfl rfl sound.outline.arm
  | join here => exact sound.advanceStart here rfl rfl rfl rfl sound.outline.join
  | launch here => exact sound.advanceStart here rfl rfl rfl rfl sound.outline.launch
  | watch here unlocked => exact sound.advanceStart here rfl rfl rfl rfl sound.outline.watch
  | serve here => exact sound.advanceStart here rfl rfl rfl rfl sound.outline.serve
  | latch here place unlocked early =>
    have unasked := sound.outline.closing_eq_none early
    exact sound.moveShutdown here (.inr unasked) rfl rfl rfl
      (sound.outline.latch (opening?_unlocked unlocked) early)
  | @again call request here place unlocked late =>
    have idle : request.isActive = false := by rw [ShutdownCall.isActive, place]; rfl
    rw [Service.moveShutdown, Roster.modify_eq_set here]
    refine sound.idleShutdown (sound.soleShutdown.set_of_unmarked here rfl)
      (Roster.find?_set_of_unmarked here idle rfl) fun none => ?_
    have early := sound.outline.not_late none
    exact absurd late early
  | halt here place => exact sound.advanceShutdown here place rfl rfl rfl rfl sound.outline.halt
  | drain here place ended =>
    exact sound.advanceShutdown here place rfl rfl rfl rfl fun closing => sound.outline.drain closing ended
  | free here place => exact sound.advanceShutdown here place rfl rfl rfl rfl sound.outline.free
  | settle here place drained =>
    refine sound.advanceShutdown here place rfl rfl rfl rfl fun closing => ?_
    exact sound.outline.settle closing (isDrained_iff.mp drained)
  | force here place => exact sound.advanceShutdown here place rfl rfl rfl rfl sound.outline.force
  | close here place unlocked =>
    exact sound.advanceShutdown here place rfl rfl rfl rfl sound.outline.close
  | leave here place => exact sound.advanceShutdown here place rfl rfl rfl rfl sound.outline.leave
  | giveBack here place =>
    exact sound.advanceShutdown here place rfl rfl rfl rfl sound.outline.giveBack
  | expire here waits => exact sound.interruptShutdown here waits (.inl rfl) rfl rfl rfl
  | forsake here waits byCaller => exact sound.interruptShutdown here waits (.inr rfl) rfl rfl rfl
  | abortShutting told shutting here waits =>
    exact sound.interruptShutdown here waits (.inr rfl) rfl rfl rfl
  | hearCancellation | hearSignal => exact sound.alarmed
  | callWait | take | joinWorker | endWait | abandonWait | hearStop | panicWatcher | abortWatching |
      endWatcher =>
    exact sound.keepCalls rfl rfl sound.outline
  | begin spawned =>
    exact sound.keepCalls rfl rfl (sound.outline.moveAcceptor spawned nofun nofun rfl rfl)
  | look checking =>
    refine sound.keepCalls rfl rfl (sound.outline.moveAcceptor checking nofun ?_ rfl ?_)
    · split <;> exact nofun
    · split <;> rfl
  | release leaving =>
    exact sound.keepCalls rfl rfl (sound.outline.releaseSocket leaving nofun rfl nofun)
  | mark released =>
    exact sound.keepCalls rfl rfl (sound.outline.markDone released nofun rfl rfl)
  | unwind unwinding =>
    exact sound.keepCalls rfl rfl (sound.outline.releaseSocket unwinding nofun rfl id)
  | accept polling =>
    have moved : Outline.Sound { before.outline with acceptor := .checking } :=
      sound.outline.moveAcceptor polling nofun nofun rfl rfl
    exact sound.keepCalls rfl rfl (moved.accept nofun)
  | skip polling | park polling | wake polling | fail cause polling =>
    exact sound.keepCalls rfl rfl (sound.outline.moveAcceptor polling nofun nofun rfl rfl)
  | panicAcceptor polling =>
    exact sound.keepCalls rfl rfl (sound.outline.markDone polling nofun rfl rfl)
  | abortSpawned told spawned =>
    exact sound.keepCalls rfl rfl (sound.outline.releaseSocket spawned nofun rfl nofun)
  | abortParked told parked =>
    exact sound.keepCalls rfl rfl (sound.outline.markDone parked nofun rfl rfl)
  | register here armed =>
    exact sound.keepCalls rfl rfl (sound.outline.putConnection here (fun _ => .inr armed) nofun)
  | reject here | drop here | finish here =>
    exact sound.keepCalls rfl rfl (sound.outline.putConnection here nofun nofun)
  | dispatch here =>
    exact sound.keepCalls rfl rfl (sound.outline.putConnection here (fun _ => .inl rfl) nofun)
  | cut here forced =>
    exact sound.keepCalls rfl rfl (sound.outline.putConnection here nofun (fun _ _ => forced))

theorem Reachable.sound (reachable : Reachable service) : service.Sound := by
  induction reachable with
  | opened limit => exact sound_opened limit
  | step signalled action _ stepped inductionHypothesis =>
    exact inductionHypothesis.move (move_of_step stepped)

/-- The first step of a run. -/
theorem run_cons {action : Action} {rest : List (Bool × Action)} {last : Service} :
    service.run ((signalled, action) :: rest) = some (last, effects) ↔
      ∃ next said others, service.step signalled action = some (next, said) ∧
        next.run rest = some (last, others) ∧ effects = said ++ others := by
  constructor
  · intro ran
    obtain ⟨⟨next, said⟩, stepped, continued⟩ := Option.bind_eq_some_iff.mp ran
    obtain ⟨⟨_, others⟩, ranRest, result⟩ := Option.bind_eq_some_iff.mp continued
    cases result
    exact ⟨next, said, others, stepped, ranRest, rfl⟩
  · rintro ⟨next, said, others, stepped, ranRest, rfl⟩
    simp [run, stepped, ranRest]

theorem run_append {first second : List (Bool × Action)} {last : Service} :
    service.run (first ++ second) = some (last, effects) ↔
      ∃ middle said others, service.run first = some (middle, said) ∧
        middle.run second = some (last, others) ∧ effects = said ++ others := by
  induction first generalizing service effects with
  | nil => simp [run]
  | cons taken rest inductionHypothesis =>
    obtain ⟨signalled, action⟩ := taken
    constructor
    · intro ran
      obtain ⟨next, said, _, stepped, continued, rfl⟩ := run_cons.mp ran
      obtain ⟨middle, more, others, ranRest, ranSecond, rfl⟩ := inductionHypothesis.mp continued
      have ranFirst := run_cons.mpr ⟨next, said, more, stepped, ranRest, rfl⟩
      exact ⟨middle, said ++ more, others, ranFirst, ranSecond, (List.append_assoc ..).symm⟩
    · rintro ⟨middle, _, others, ranFirst, ranSecond, rfl⟩
      obtain ⟨next, said, more, stepped, ranRest, rfl⟩ := run_cons.mp ranFirst
      have continued := inductionHypothesis.mpr ⟨middle, more, others, ranRest, ranSecond, rfl⟩
      exact run_cons.mpr ⟨next, said, _, stepped, continued, List.append_assoc ..⟩

theorem run_singleton {action : Action} : service.run [(signalled, action)] = service.step signalled action := by
  cases stepped : service.step signalled action with
  | none => simp [run, stepped]
  | some reached => simp [run, stepped]

/-- The last step of a run. -/
theorem run_snoc {actions : List (Bool × Action)} {action : Action} :
    service.run (actions ++ [(signalled, action)]) = some (after, effects) ↔
      ∃ before said others, service.run actions = some (before, said) ∧
        before.step signalled action = some (after, others) ∧ effects = said ++ others := by
  simp [run_append, run_singleton]

/-- What each step of a sound service preserves holds at the end of a run. -/
theorem Sound.run_induction {motive : Service → Prop}
    (moved : ∀ {signalled : Bool} {action : Action} {before after : Service} {effects : List Effect},
      before.Sound → Move signalled before action after effects → motive before → motive after)
    {actions : List (Bool × Action)} (sound : before.Sound) (holds : motive before)
    (ran : before.run actions = some (after, effects)) : motive after := by
  induction actions generalizing before effects with
  | nil =>
    cases ran
    exact holds
  | cons taken rest inductionHypothesis =>
    obtain ⟨signalled, action⟩ := taken
    obtain ⟨next, said, others, stepped, continued, rfl⟩ := run_cons.mp ran
    have moves := move_of_step stepped
    exact inductionHypothesis (sound.move moves) (moved sound moves holds) continued

theorem Sound.run {actions : List (Bool × Action)} (sound : before.Sound)
    (ran : before.run actions = some (after, effects)) : after.Sound :=
  sound.run_induction (motive := Sound) (fun sound moves _ => sound.move moves) sound ran

/-- What holds of the history of a service that was just opened, and is extended by each step, holds of the
history of every run. -/
theorem history_induction {limit : Duration} {motive : List (Bool × Action) → Service → List Effect → Prop}
    (fresh : motive [] (opened limit) [])
    (extended : ∀ {actions signalled action before after said effects},
      (opened limit).run actions = some (before, said) → before.Sound →
      Move signalled before action after effects → motive actions before said →
      motive (actions ++ [(signalled, action)]) after (said ++ effects))
    {actions : List (Bool × Action)} (ran : (opened limit).run actions = some (service, effects)) :
    motive actions service effects := by
  induction actions using List.reverseRecOn generalizing service effects with
  | nil =>
    cases ran
    exact fresh
  | append_singleton actions taken inductionHypothesis =>
    obtain ⟨signalled, action⟩ := taken
    obtain ⟨before, said, others, reached, stepped, rfl⟩ := run_snoc.mp ran
    have sound := ((Reachable.opened limit).run reached).sound
    exact extended reached sound (move_of_step stepped) (inductionHypothesis reached)

end ServiceHost.Service
