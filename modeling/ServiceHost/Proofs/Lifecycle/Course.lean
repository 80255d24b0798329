import ServiceHost.Proofs.Lifecycle.Sound

/-!
Courses: how the calls on a service go on from step to step and through runs. A call never goes back, and
once it has taken the lock its way is set.
-/

namespace ServiceHost.Lifecycle

/-- A place follows another in a start that finds the service in a phase. -/
inductive StartPlace.Follows (phase : Phase) : StartPlace → StartPlace → Prop where
  | claim (listening : phase = .listening) : Follows phase .called .claimed
  | refuse (other : phase ≠ .listening) : Follows phase .called (.refused phase)
  | arm : Follows phase .claimed .armed
  | join : Follows phase .armed .joined
  | launch : Follows phase .joined .running
  | watch : Follows phase .running .watching
  | serve : Follows phase .watching .started

/-- A place follows another in a shutdown that finds the service in a phase. -/
inductive ShutdownPlace.Follows (phase : Phase) : ShutdownPlace → ShutdownPlace → Prop where
  | latch (early : ¬(phase = .shuttingDown ∨ phase = .closed)) (started : Bool) :
      Follows phase .called (.latched started)
  | again (late : phase = .shuttingDown ∨ phase = .closed) : Follows phase .called .repeated
  | halt (started : Bool) : Follows phase (.latched started) (.stopping started)
  | drain : Follows phase (.stopping true) .draining
  | free : Follows phase (.stopping false) (.settled false true)
  | settle : Follows phase .draining (.settled true true)
  | force : Follows phase .expired (.settled true false)
  | close (started drained : Bool) : Follows phase (.settled started drained) (.closed started drained)
  | leave (started drained : Bool) : Follows phase (.closed started drained) (.left drained)
  | giveBack (drained : Bool) : Follows phase (.left drained) (.returned drained)
  | expire {old : ShutdownPlace} (waits : old.waits) : Follows phase old .expired
  | forsake {old : ShutdownPlace} (waits : old.waits) : Follows phase old .abandoned

/-- How far a shutdown at a place has come on its way. -/
def ShutdownPlace.rank : ShutdownPlace → Nat
  | .called => 0
  | .latched _ => 1
  | .stopping _ => 2
  | .draining => 3
  | .expired => 4
  | .settled _ _ => 5
  | .closed _ _ => 6
  | .left _ => 7
  | .returned _ => 8
  | .repeated => 8
  | .abandoned => 8

/-- Who lets a shutdown come to a place. -/
def ShutdownPlace.MovedBy (call : Nat) (action : Service.Action) : ShutdownPlace → Prop
  | .expired => action = .expire call
  | .abandoned => True
  | _ => action = .shutdown call

/-- Has the drain of a call at this place begun, or was it passed over? -/
def ShutdownPlace.isPastStop (place : ShutdownPlace) : Bool :=
  place.isActive && decide (ShutdownPlace.draining.rank ≤ place.rank)

variable {phase : Phase}

theorem StartPlace.Follows.hasClaimed {old new : StartPlace} (follows : old.Follows phase new)
    (claimed : old.hasClaimed) : new.hasClaimed := by
  cases follows <;> first | rfl | cases claimed

/-- A start that took the socket and freed the state lock has joined the wait group. -/
theorem StartPlace.hasJoined_of_unlocked (place : StartPlace) (claimed : place.hasClaimed)
    (unlocked : place.holdsState = false) : place.hasJoined := by
  cases place <;> first | rfl | exact claimed | cases unlocked

/-- Only in a listening service does a start take the socket. -/
theorem StartPlace.Follows.hasClaimed_or {old new : StartPlace} (follows : old.Follows phase new)
    (claims : new.hasClaimed) : old.hasClaimed ∨ (old = .called ∧ phase = .listening) := by
  cases follows with
  | claim listening => exact .inr ⟨rfl, listening⟩
  | refuse other => cases claims
  | arm | join | launch | watch | serve => exact .inl rfl

theorem ShutdownPlace.Follows.rank_lt {old new : ShutdownPlace} (follows : old.Follows phase new) :
    old.rank < new.rank := by
  cases follows with
  | expire waits | forsake waits =>
    cases old <;> simp_all [ShutdownPlace.waits, ShutdownPlace.rank]
  | _ => simp [ShutdownPlace.rank]

theorem ShutdownPlace.Follows.isActive {old new : ShutdownPlace} (follows : old.Follows phase new)
    (active : old.isActive) : new.isActive := by
  cases follows <;> first | rfl | cases active

theorem ShutdownPlace.isActive_of_waits {place : ShutdownPlace} (waits : place.waits) : place.isActive := by
  cases place <;> first | rfl | cases waits

theorem ShutdownPlace.hasClosed_of_hasLeft {place : ShutdownPlace} (left : place.hasLeft) :
    place.hasClosed := by
  cases place <;> first | exact left | cases left

theorem ShutdownPlace.isActive_of_hasLeft {place : ShutdownPlace} (left : place.hasLeft) :
    place.isActive := by
  cases place <;> first | rfl | cases left

/-- A shutdown that acts was acting before or has found no other. -/
theorem ShutdownPlace.Follows.isActive_or {old new : ShutdownPlace} (follows : old.Follows phase new)
    (active : new.isActive) :
    old.isActive ∨ (old = .called ∧ ¬(phase = .shuttingDown ∨ phase = .closed)) := by
  cases follows with
  | latch early started => exact .inr ⟨rfl, early⟩
  | again late => cases active
  | expire waits | forsake waits => exact .inl (ShutdownPlace.isActive_of_waits waits)
  | _ => exact .inl rfl

end ServiceHost.Lifecycle

namespace ServiceHost.Service

open Lifecycle

variable {signalled : Bool} {action : Action} {service before after last : Service}
  {effects said others : List Effect} {actions later : List (Bool × Action)} {call : Nat}

/-- A listening service whose state lock is free has its socket. -/
theorem Sound.socket_held (sound : service.Sound) (unlocked : service.stateLocked = false)
    (listening : service.phase = .listening) : service.socket = .held := by
  have unasked := sound.outline.closing_eq_none (by rw [Service.outline, listening]; simp)
  have free := opening?_unlocked unlocked
  have unjoined := sound.outline.isRunning_eq unasked free
  have unopened : service.opening? = none := by
    cases opened : service.opening? with
    | none => rfl
    | some place =>
      rw [opened, Option.any_some] at free
      have joined := place.hasJoined_of_unlocked (List.find?_some opened) free
      have opening : service.outline.opening = some place := opened
      have phase : service.outline.phase = .listening := listening
      rw [phase, Outline.hasJoined, opening, Option.any_some, joined] at unjoined
      exact absurd unjoined (by decide)
  have held := sound.outline.unclaimed unopened
  rw [unasked] at held
  exact held

/-- What a step does to the starts: it lets one be called or lets one go on. -/
theorem Move.starts_eq (sound : before.Sound) (moves : Move signalled before action after effects) :
    after.starts = before.starts ∨ after.starts = before.starts ++ [.called] ∨
      ∃ call old new, action = .start call ∧ before.starts[call]? = some old ∧
        old.Follows before.phase new ∧ after.starts = before.starts.set call new := by
  cases moves with
  | callStart => exact .inr (.inl rfl)
  | claim here unlocked listening held =>
    exact .inr (.inr ⟨_, _, _, rfl, here, .claim listening, rfl⟩)
  | refuse here unlocked other =>
    have busy : before.phase ≠ .listening := fun listening =>
      other ⟨listening, sound.socket_held unlocked listening⟩
    exact .inr (.inr ⟨_, _, _, rfl, here, .refuse busy, rfl⟩)
  | arm here => exact .inr (.inr ⟨_, _, _, rfl, here, .arm, rfl⟩)
  | join here => exact .inr (.inr ⟨_, _, _, rfl, here, .join, rfl⟩)
  | launch here => exact .inr (.inr ⟨_, _, _, rfl, here, .launch, rfl⟩)
  | watch here unlocked => exact .inr (.inr ⟨_, _, _, rfl, here, .watch, rfl⟩)
  | serve here => exact .inr (.inr ⟨_, _, _, rfl, here, .serve, rfl⟩)
  | _ => exact .inl rfl

theorem getElem?_moveStart {place new : StartPlace} (here : service.starts[call]? = some place) :
    (service.moveStart call new).starts[call]? = some new :=
  (Roster.getElem?_set here).mpr (.inl ⟨rfl, rfl⟩)

theorem shutdowns_moveShutdown {request : ShutdownCall} {place : ShutdownPlace}
    (here : service.shutdowns[call]? = some request) :
    (service.moveShutdown call place).shutdowns = service.shutdowns.set call { request with place } :=
  Roster.modify_eq_set here _

theorem getElem?_moveShutdown {request : ShutdownCall} (here : service.shutdowns[call]? = some request)
    (place : ShutdownPlace) :
    (service.moveShutdown call place).shutdowns[call]? = some { request with place } := by
  rw [shutdowns_moveShutdown here]
  exact (Roster.getElem?_set here).mpr (.inl ⟨rfl, rfl⟩)

/-- What a step does to the shutdowns: it lets one be called or lets one go on. -/
theorem Move.shutdowns_eq (moves : Move signalled before action after effects) :
    after.shutdowns = before.shutdowns ∨
      (∃ request, request.place = .called ∧ after.shutdowns = before.shutdowns ++ [request]) ∨
      ∃ call request place, before.shutdowns[call]? = some request ∧
        after.shutdowns = before.shutdowns.set call { request with place } ∧
        request.place.Follows before.phase place ∧ place.MovedBy call action := by
  cases moves with
  | callShutdown limit | hearCancellation | hearSignal => exact .inr (.inl ⟨_, rfl, rfl⟩)
  | latch here place unlocked early =>
    exact .inr (.inr ⟨_, _, _, here, shutdowns_moveShutdown here, place ▸ .latch early _, rfl⟩)
  | again here place unlocked late =>
    exact .inr (.inr ⟨_, _, _, here, shutdowns_moveShutdown here, place ▸ .again late, rfl⟩)
  | halt here place =>
    exact .inr (.inr ⟨_, _, _, here, shutdowns_moveShutdown here, place ▸ .halt _, rfl⟩)
  | drain here place ended =>
    exact .inr (.inr ⟨_, _, _, here, shutdowns_moveShutdown here, place ▸ .drain, rfl⟩)
  | free here place =>
    exact .inr (.inr ⟨_, _, _, here, shutdowns_moveShutdown here, place ▸ .free, rfl⟩)
  | settle here place drained =>
    exact .inr (.inr ⟨_, _, _, here, shutdowns_moveShutdown here, place ▸ .settle, rfl⟩)
  | force here place =>
    exact .inr (.inr ⟨_, _, _, here, shutdowns_moveShutdown here, place ▸ .force, rfl⟩)
  | close here place unlocked =>
    exact .inr (.inr ⟨_, _, _, here, shutdowns_moveShutdown here, place ▸ .close _ _, rfl⟩)
  | leave here place =>
    exact .inr (.inr ⟨_, _, _, here, shutdowns_moveShutdown here, place ▸ .leave _ _, rfl⟩)
  | giveBack here place =>
    exact .inr (.inr ⟨_, _, _, here, shutdowns_moveShutdown here, place ▸ .giveBack _, rfl⟩)
  | expire here waits =>
    exact .inr (.inr ⟨_, _, _, here, shutdowns_moveShutdown here, .expire waits, rfl⟩)
  | forsake here waits byCaller =>
    exact .inr (.inr ⟨_, _, _, here, shutdowns_moveShutdown here, .forsake waits, trivial⟩)
  | abortShutting told shutting here waits =>
    exact .inr (.inr ⟨_, _, _, here, shutdowns_moveShutdown here, .forsake waits, trivial⟩)
  | _ => exact .inl rfl

/-- A start stays where it is or goes on by a step of its own. -/
theorem Move.start_goesOn (sound : before.Sound) (moves : Move signalled before action after effects)
    {place : StartPlace} (here : before.starts[call]? = some place) :
    after.starts[call]? = some place ∨
      ∃ new, action = .start call ∧ place.Follows before.phase new ∧ after.starts[call]? = some new := by
  rcases moves.starts_eq sound with kept | called | ⟨other, old, new, acted, found, follows, set⟩
  · exact .inl (kept ▸ here)
  · exact .inl (called ▸ Roster.getElem?_snoc.mpr (.inl here))
  · by_cases same : call = other
    · subst same
      obtain rfl : old = place := Option.some.inj (found.symm.trans here)
      exact .inr ⟨new, acted, follows, set ▸ (Roster.getElem?_set found).mpr (.inl ⟨rfl, rfl⟩)⟩
    · exact .inl (set ▸ (Roster.getElem?_set found).mpr (.inr ⟨same, here⟩))

/-- A start was there before a step and stayed or went on, or was called by the step. -/
theorem Move.start_cameFrom (sound : before.Sound) (moves : Move signalled before action after effects)
    {place : StartPlace} (here : after.starts[call]? = some place) :
    place = .called ∨ before.starts[call]? = some place ∨
      ∃ old, action = .start call ∧ before.starts[call]? = some old ∧ old.Follows before.phase place := by
  rcases moves.starts_eq sound with kept | called | ⟨other, old, new, acted, found, follows, set⟩
  · exact .inr (.inl (kept ▸ here))
  · rw [called] at here
    rcases Roster.getElem?_snoc.mp here with present | ⟨_, fresh⟩
    · exact .inr (.inl present)
    · exact .inl fresh
  · rw [set] at here
    rcases (Roster.getElem?_set found).mp here with ⟨rfl, rfl⟩ | ⟨_, kept⟩
    · exact .inr (.inr ⟨old, acted, found, follows⟩)
    · exact .inr (.inl kept)

/-- A shutdown stays where it is or goes on. -/
theorem Move.shutdown_goesOn (moves : Move signalled before action after effects) {request : ShutdownCall}
    (here : before.shutdowns[call]? = some request) :
    after.shutdowns[call]? = some request ∨
      ∃ place, request.place.Follows before.phase place ∧ place.MovedBy call action ∧
        after.shutdowns[call]? = some { request with place } := by
  rcases moves.shutdowns_eq with kept | ⟨fresh, _, called⟩ | ⟨other, old, place, found, set, follows, movedBy⟩
  · exact .inl (kept ▸ here)
  · exact .inl (called ▸ Roster.getElem?_snoc.mpr (.inl here))
  · by_cases same : call = other
    · subst same
      obtain rfl : old = request := Option.some.inj (found.symm.trans here)
      exact .inr ⟨place, follows, movedBy, set ▸ (Roster.getElem?_set found).mpr (.inl ⟨rfl, rfl⟩)⟩
    · exact .inl (set ▸ (Roster.getElem?_set found).mpr (.inr ⟨same, here⟩))

/-- A shutdown was there before a step and stayed or went on, or was called by the step. -/
theorem Move.shutdown_cameFrom (moves : Move signalled before action after effects)
    {request : ShutdownCall} (here : after.shutdowns[call]? = some request) :
    request.place = .called ∨ before.shutdowns[call]? = some request ∨
      ∃ old, before.shutdowns[call]? = some old ∧ old.limit = request.limit ∧
        old.place.Follows before.phase request.place ∧ request.place.MovedBy call action := by
  rcases moves.shutdowns_eq with
    kept | ⟨fresh, place, called⟩ | ⟨other, old, place, found, set, follows, movedBy⟩
  · exact .inr (.inl (kept ▸ here))
  · rw [called] at here
    rcases Roster.getElem?_snoc.mp here with present | ⟨_, rfl⟩
    · exact .inr (.inl present)
    · exact .inl place
  · rw [set] at here
    rcases (Roster.getElem?_set found).mp here with ⟨rfl, rfl⟩ | ⟨_, kept⟩
    · exact .inr (.inr ⟨old, found, rfl, follows, movedBy⟩)
    · exact .inr (.inl kept)

end ServiceHost.Service
