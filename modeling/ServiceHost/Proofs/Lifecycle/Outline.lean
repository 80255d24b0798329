import ServiceHost.Proofs.Lifecycle.Move
import ServiceHost.Proofs.Roster

/-!
Outlines: of all the calls on a service only one start and one shutdown ever do anything. The outline of a
service holds how far these two have come and what they work on, and a sound outline ties the one to the
other.
-/

namespace ServiceHost.Lifecycle

/-- Has a call at this place taken the socket? -/
def StartPlace.hasClaimed : StartPlace → Bool
  | .called => false
  | .refused _ => false
  | _ => true

/-- Has a call at this place armed the handle? -/
def StartPlace.hasArmed : StartPlace → Bool
  | .claimed => false
  | place => place.hasClaimed

/-- Has a call at this place joined the wait group? -/
def StartPlace.hasJoined : StartPlace → Bool
  | .armed => false
  | place => place.hasArmed

/-- Has a call at this place made the service run? -/
def StartPlace.hasLaunched : StartPlace → Bool
  | .joined => false
  | place => place.hasJoined

/-- Is a call at this place the shutdown that acts? -/
def ShutdownPlace.isActive : ShutdownPlace → Bool
  | .called => false
  | .repeated => false
  | _ => true

/-- Has a call at this place triggered the stop signal? -/
def ShutdownPlace.hasHalted : ShutdownPlace → Bool
  | .latched _ => false
  | place => place.isActive

/-- Is the drain of a call at this place over? -/
def ShutdownPlace.hasSettled : ShutdownPlace → Bool
  | .settled _ _ => true
  | .closed _ _ => true
  | .left _ => true
  | .returned _ => true
  | _ => false

/-- Has a call at this place closed the service? -/
def ShutdownPlace.hasClosed : ShutdownPlace → Bool
  | .settled _ _ => false
  | place => place.hasSettled

/-- Has a call at this place left the wait group, if the service was started? -/
def ShutdownPlace.hasLeft : ShutdownPlace → Bool
  | .closed _ _ => false
  | place => place.hasClosed

/-- Has a call at this place seen every connection finished? -/
def ShutdownPlace.hasDrained : ShutdownPlace → Bool
  | .settled _ drained => drained
  | .closed _ drained => drained
  | .left drained => drained
  | .returned drained => drained
  | _ => false

/-- Has a call at this place given up the drain at its deadline? -/
def ShutdownPlace.hasForced : ShutdownPlace → Bool
  | .settled _ drained => !drained
  | .closed _ drained => !drained
  | .left drained => !drained
  | .returned drained => !drained
  | _ => false

/-- May a call be at this place, if the service was started or not? -/
def ShutdownPlace.suits (started : Bool) : ShutdownPlace → Bool
  | .latched known => known == started
  | .stopping known => known == started
  | .settled known _ => known == started
  | .closed known _ => known == started
  | .draining => started
  | .expired => started
  | .abandoned => started
  | _ => true

/-- Is a call the shutdown that acts? -/
def ShutdownCall.isActive (request : ShutdownCall) : Bool := request.place.isActive

/-- Has the acceptor let go of the socket? -/
def Acceptor.hasReleased : Acceptor → Bool
  | .released _ => true
  | .ended _ => true
  | _ => false

/-- Does an acceptor that is marked as done look like this? -/
def Acceptor.isDone : Acceptor → Bool
  | .unwinding _ => true
  | .ended _ => true
  | _ => false

/-- The outline of a service: the place of the start that took the socket, the place of the shutdown that
acts, and what they work on. -/
structure Outline where
  opening : Option StartPlace
  closing : Option ShutdownPlace
  phase : Phase
  socket : Socket
  handle : Handle
  stop : Bool
  forceClose : Bool
  acceptorDone : Bool
  acceptor : Acceptor
  connections : List Connection

namespace Outline

/-- The phase that the places of the two calls amount to. -/
def phaseOf (opening : Option StartPlace) : Option ShutdownPlace → Phase
  | none => if opening.any StartPlace.hasLaunched then .running else .listening
  | some place => if place.hasClosed then .closed else .shuttingDown

/-- Did the start join the wait group? -/
def hasJoined (outline : Outline) : Bool := outline.opening.any StartPlace.hasJoined

/-- The law that ties the places of the two calls to what they work on. -/
structure Sound (outline : Outline) : Prop where
  phase_eq : outline.phase = phaseOf outline.opening outline.closing
  /-- No shutdown acts while a start holds the state lock. -/
  locked : outline.opening.any StartPlace.holdsState → outline.closing = none
  suits : ∀ place, outline.closing = some place → place.suits outline.hasJoined
  unclaimed : outline.opening = none →
    outline.socket = if outline.closing.any ShutdownPlace.hasSettled then .released else .held
  carried : ∀ place, outline.opening = some place → place ≠ .started → outline.socket = .carried
  served : outline.opening = some .started →
    outline.socket = if outline.acceptor.hasReleased then .released else .serving
  acceptor_absent : outline.acceptor = .absent ↔ outline.opening ≠ some .started
  done : outline.acceptorDone → outline.acceptor.isDone
  stop_eq : outline.stop = outline.closing.any ShutdownPlace.hasHalted
  unarmed : outline.opening.any StartPlace.hasArmed = false → outline.handle = .absent
  draining : outline.closing = some .draining → outline.handle = .taken ∧ outline.acceptorDone
  quiet : outline.closing.any ShutdownPlace.hasDrained → outline.hasJoined →
    outline.handle = .taken ∧ outline.acceptorDone
  connected : outline.connections ≠ [] → outline.opening = some .started
  drained : outline.closing.any ShutdownPlace.hasDrained →
    ∀ connection ∈ outline.connections, connection.isOpen = false
  forced : outline.forceClose → outline.closing.any ShutdownPlace.hasForced
  cut : ∀ requests, Connection.cut requests ∈ outline.connections → outline.forceClose

variable {outline : Outline}

/-- The socket is in the service only as long as no start took it. -/
theorem Sound.opening_eq_none (sound : outline.Sound) (held : outline.socket = .held) :
    outline.opening = none := by
  cases opened : outline.opening with
  | none => rfl
  | some place =>
    by_cases started : place = .started
    · have served := sound.served (started ▸ opened)
      rw [held] at served
      split at served <;> cases served
    · have carried := sound.carried place opened started
      rw [held] at carried
      cases carried

/-- Before the phase shows it, no shutdown acts. -/
theorem Sound.closing_eq_none (sound : outline.Sound)
    (early : ¬(outline.phase = .shuttingDown ∨ outline.phase = .closed)) : outline.closing = none := by
  cases closing : outline.closing with
  | none => rfl
  | some place =>
    rw [sound.phase_eq, closing, phaseOf] at early
    split at early <;> simp at early

/-- The phase shows whether a shutdown acts. -/
theorem Sound.not_late (sound : outline.Sound) (unasked : outline.closing = none) :
    ¬(outline.phase = .shuttingDown ∨ outline.phase = .closed) := by
  rw [sound.phase_eq, unasked, phaseOf]
  split <;> simp

/-- While a shutdown acts, no start holds the state lock. -/
theorem Sound.unlocked (sound : outline.Sound) {place : ShutdownPlace}
    (closing : outline.closing = some place) : outline.opening.any StartPlace.holdsState = false := by
  rw [Bool.eq_false_iff]
  intro locked
  rw [sound.locked locked] at closing
  cases closing

/-- Without the state lock held, a service that was started and not shut down runs. -/
theorem Sound.isRunning_eq (sound : outline.Sound) (unasked : outline.closing = none)
    (unlocked : outline.opening.any StartPlace.holdsState = false) :
    (outline.phase == Phase.running) = outline.hasJoined := by
  rw [sound.phase_eq, unasked, phaseOf, hasJoined]
  cases opened : outline.opening with
  | none => rfl
  | some place =>
    rw [opened, Option.any_some] at unlocked
    cases place <;> first | rfl | cases unlocked

/-- A start that joined the wait group has taken the socket and armed the handle before. -/
theorem hasArmed_of_hasJoined (joined : outline.hasJoined) :
    outline.opening.any StartPlace.hasArmed ∧ outline.opening ≠ none := by
  unfold hasJoined at joined
  cases opened : outline.opening with
  | none => simp [opened] at joined
  | some place =>
    rw [opened, Option.any_some] at joined
    cases place <;> simp_all [StartPlace.hasJoined, StartPlace.hasArmed, StartPlace.hasClaimed]

theorem hasJoined_of_started (started : outline.opening = some .started) : outline.hasJoined := by
  simp [hasJoined, started, StartPlace.hasJoined, StartPlace.hasArmed, StartPlace.hasClaimed]

section Start

theorem Sound.claim (sound : outline.Sound) (listening : outline.phase = .listening)
    (held : outline.socket = .held) :
    Sound { outline with socket := .carried, opening := some .claimed } := by
  have unopened := sound.opening_eq_none held
  have unasked := sound.closing_eq_none (by simp [listening])
  obtain ⟨opening, closing⟩ := outline
  obtain rfl : opening = none := unopened
  obtain rfl : closing = none := unasked
  exact { sound with
    phase_eq := listening
    locked := fun _ => rfl
    suits := nofun
    unclaimed := nofun
    carried := fun _ _ _ => rfl
    served := nofun
    acceptor_absent := by simpa using sound.acceptor_absent
    unarmed := fun _ => sound.unarmed rfl
    quiet := nofun
    connected := fun present => absurd (sound.connected present) nofun }

theorem Sound.arm (sound : outline.Sound) (claimed : outline.opening = some .claimed) :
    Sound { outline with handle := .armed, opening := some .armed } := by
  have unasked := sound.locked (by rw [claimed]; rfl)
  obtain ⟨opening, closing⟩ := outline
  obtain rfl : opening = some .claimed := claimed
  obtain rfl : closing = none := unasked
  exact { sound with
    phase_eq := sound.phase_eq
    locked := fun _ => rfl
    suits := nofun
    unclaimed := nofun
    carried := fun _ _ _ => sound.carried .claimed rfl nofun
    served := nofun
    acceptor_absent := by simpa using sound.acceptor_absent
    unarmed := nofun
    draining := nofun
    quiet := nofun
    connected := fun present => absurd (sound.connected present) nofun }

theorem Sound.join (sound : outline.Sound) (armed : outline.opening = some .armed) :
    Sound { outline with opening := some .joined } := by
  have unasked := sound.locked (by rw [armed]; rfl)
  obtain ⟨opening, closing⟩ := outline
  obtain rfl : opening = some .armed := armed
  obtain rfl : closing = none := unasked
  exact { sound with
    phase_eq := sound.phase_eq
    locked := fun _ => rfl
    suits := nofun
    unclaimed := nofun
    carried := fun _ _ _ => sound.carried .armed rfl nofun
    served := nofun
    acceptor_absent := by simpa using sound.acceptor_absent
    unarmed := nofun
    quiet := nofun
    connected := fun present => absurd (sound.connected present) nofun }

theorem Sound.launch (sound : outline.Sound) (joined : outline.opening = some .joined) :
    Sound { outline with phase := .running, opening := some .running } := by
  have unasked := sound.locked (by rw [joined]; rfl)
  obtain ⟨opening, closing⟩ := outline
  obtain rfl : opening = some .joined := joined
  obtain rfl : closing = none := unasked
  exact { sound with
    phase_eq := rfl
    locked := nofun
    suits := nofun
    unclaimed := nofun
    carried := fun _ _ _ => sound.carried .joined rfl nofun
    served := nofun
    acceptor_absent := by simpa using sound.acceptor_absent
    unarmed := nofun
    quiet := nofun
    connected := fun present => absurd (sound.connected present) nofun }

theorem Sound.watch (sound : outline.Sound) (running : outline.opening = some .running) :
    Sound { outline with opening := some .watching } := by
  obtain ⟨opening, closing⟩ := outline
  obtain rfl : opening = some .running := running
  exact { sound with
    phase_eq := sound.phase_eq
    locked := nofun
    suits := sound.suits
    unclaimed := nofun
    carried := fun _ _ _ => sound.carried .running rfl nofun
    served := nofun
    acceptor_absent := by simpa using sound.acceptor_absent
    unarmed := nofun
    quiet := sound.quiet
    connected := fun present => absurd (sound.connected present) nofun }

theorem Sound.serve (sound : outline.Sound) (watching : outline.opening = some .watching) :
    Sound { outline with acceptor := .spawned, socket := .serving, opening := some .started } := by
  have absent : outline.acceptor = .absent := sound.acceptor_absent.mpr (by rw [watching]; nofun)
  obtain ⟨opening, closing⟩ := outline
  obtain rfl : opening = some .watching := watching
  exact { sound with
    phase_eq := sound.phase_eq
    locked := nofun
    suits := sound.suits
    unclaimed := nofun
    carried := fun _ opened notStarted => absurd (Option.some.inj opened).symm notStarted
    served := fun _ => rfl
    acceptor_absent := by simp
    done := by
      intro ended
      have isDone := sound.done ended
      rw [absent] at isDone
      cases isDone
    unarmed := nofun
    quiet := sound.quiet
    connected := fun _ => rfl }

end Start

section Shutdown

variable {started drained : Bool}

theorem Sound.latch (sound : outline.Sound) (unlocked : outline.opening.any StartPlace.holdsState = false)
    (early : ¬(outline.phase = .shuttingDown ∨ outline.phase = .closed)) :
    Sound { outline with
      phase := .shuttingDown, closing := some (.latched (outline.phase == Phase.running)) } := by
  have unasked := sound.closing_eq_none early
  rw [sound.isRunning_eq unasked unlocked]
  obtain ⟨opening, closing⟩ := outline
  obtain rfl : closing = none := unasked
  exact { sound with
    phase_eq := rfl
    locked := by simp [unlocked]
    suits := by
      intro place found
      cases found
      exact beq_self_eq_true _
    draining := nofun }

theorem Sound.halt (sound : outline.Sound) (latched : outline.closing = some (.latched started)) :
    Sound { outline with stop := true, closing := some (.stopping started) } := by
  obtain ⟨opening, closing⟩ := outline
  obtain rfl : closing = some (.latched started) := latched
  exact { sound with
    locked := by simp [sound.unlocked rfl]
    suits := by
      intro place found
      cases found
      exact (sound.suits _ rfl :)
    stop_eq := rfl
    draining := nofun }

theorem Sound.drain (sound : outline.Sound) (stopping : outline.closing = some (.stopping true))
    (ended : outline.acceptorDone) :
    Sound { outline with handle := .taken, closing := some .draining } := by
  have joined : true = outline.hasJoined := eq_of_beq (sound.suits _ stopping)
  have armed := (hasArmed_of_hasJoined joined.symm).1
  obtain ⟨opening, closing⟩ := outline
  obtain rfl : closing = some (.stopping true) := stopping
  exact { sound with
    locked := by simp [sound.unlocked rfl]
    suits := by
      intro place found
      cases found
      exact joined.symm
    unarmed := by simp [armed]
    draining := fun _ => ⟨rfl, ended⟩
    quiet := nofun }

/-- A service that was never started lets go of its socket. -/
theorem Sound.free (sound : outline.Sound) (stopping : outline.closing = some (.stopping false)) :
    Sound { outline with
      socket := if outline.socket = Socket.held then Socket.released else outline.socket
      closing := some (.settled false true) } := by
  have unjoined : false = outline.hasJoined := eq_of_beq (sound.suits _ stopping)
  have unserved : outline.opening ≠ some .started := by
    intro started
    rw [hasJoined_of_started started] at unjoined
    cases unjoined
  have unconnected : outline.connections = [] := by
    cases connections : outline.connections with
    | nil => rfl
    | cons first rest => exact absurd (sound.connected (by simp [connections])) unserved
  have held := sound.unclaimed
  obtain ⟨opening, closing, phase, socket, handle, stop, forceClose, acceptorDone, acceptor, connections⟩ :=
    outline
  obtain rfl : closing = some (.stopping false) := stopping
  obtain rfl : connections = [] := unconnected
  exact { sound with
    locked := by simp [sound.unlocked rfl]
    suits := by
      intro place found
      cases found
      exact (sound.suits _ rfl :)
    unclaimed := fun unopened => if_pos (held unopened)
    carried := by
      intro place opened notStarted
      have carried : socket = .carried := sound.carried place opened notStarted
      simp [carried]
    served := fun started => absurd started unserved
    draining := nofun
    quiet := fun _ joined => absurd (unjoined.trans joined) nofun
    drained := nofun }

/-- Every registered connection is finished. -/
theorem Sound.settle (sound : outline.Sound) (draining : outline.closing = some .draining)
    (drained : ∀ connection ∈ outline.connections, connection.isOpen = false) :
    Sound { outline with closing := some (.settled true true) } := by
  have joined : outline.hasJoined := sound.suits _ draining
  have opened := (hasArmed_of_hasJoined joined).2
  obtain ⟨opening, closing⟩ := outline
  obtain rfl : closing = some .draining := draining
  exact { sound with
    locked := by simp [sound.unlocked rfl]
    suits := by
      intro place found
      cases found
      exact beq_iff_eq.mpr joined.symm
    unclaimed := fun unopened => absurd unopened opened
    draining := nofun
    quiet := fun _ _ => sound.draining rfl
    drained := fun _ => drained }

theorem Sound.force (sound : outline.Sound) (expired : outline.closing = some .expired) :
    Sound { outline with forceClose := true, closing := some (.settled true false) } := by
  have joined : outline.hasJoined := sound.suits _ expired
  have opened := (hasArmed_of_hasJoined joined).2
  obtain ⟨opening, closing⟩ := outline
  obtain rfl : closing = some .expired := expired
  exact { sound with
    locked := by simp [sound.unlocked rfl]
    suits := by
      intro place found
      cases found
      exact beq_iff_eq.mpr joined.symm
    unclaimed := fun unopened => absurd unopened opened
    draining := nofun
    forced := fun _ => rfl
    cut := fun _ _ => rfl }

theorem Sound.close (sound : outline.Sound) (settled : outline.closing = some (.settled started drained)) :
    Sound { outline with phase := .closed, closing := some (.closed started drained) } := by
  obtain ⟨opening, closing⟩ := outline
  obtain rfl : closing = some (.settled started drained) := settled
  exact { sound with
    phase_eq := rfl
    locked := by simp [sound.unlocked rfl]
    suits := by
      intro place found
      cases found
      exact (sound.suits _ rfl :)
    draining := nofun }

theorem Sound.leave (sound : outline.Sound) (closed : outline.closing = some (.closed started drained)) :
    Sound { outline with closing := some (.left drained) } := by
  obtain ⟨opening, closing⟩ := outline
  obtain rfl : closing = some (.closed started drained) := closed
  exact { sound with
    locked := by simp [sound.unlocked rfl]
    suits := by
      intro place found
      cases found
      rfl
    draining := nofun }

theorem Sound.giveBack (sound : outline.Sound) (left : outline.closing = some (.left drained)) :
    Sound { outline with closing := some (.returned drained) } := by
  obtain ⟨opening, closing⟩ := outline
  obtain rfl : closing = some (.left drained) := left
  exact { sound with
    locked := by simp [sound.unlocked rfl]
    suits := by
      intro place found
      cases found
      rfl
    draining := nofun }

/-- A shutdown that waits for a drain is interrupted: by its deadline or by its caller. -/
theorem Sound.interrupt (sound : outline.Sound) {old new : ShutdownPlace} (here : outline.closing = some old)
    (waits : old.waits) (interrupted : new = .expired ∨ new = .abandoned) :
    Sound { outline with closing := some new } := by
  have joined : outline.hasJoined := by
    have suits := sound.suits old here
    cases old with
    | draining => exact suits
    | stopping started =>
      cases started with
      | true => exact (eq_of_beq suits).symm
      | false => cases waits
    | _ => cases waits
  have opened := (hasArmed_of_hasJoined joined).2
  obtain ⟨opening, closing⟩ := outline
  obtain rfl : closing = some old := here
  have unlocked := sound.unlocked rfl
  cases old with
  | draining | stopping started =>
    rcases interrupted with rfl | rfl <;>
    exact { sound with
      locked := by simp [unlocked]
      suits := by
        intro place found
        cases found
        exact joined
      draining := nofun }
  | _ => cases waits

end Shutdown

section Acceptor

/-- The acceptor moves on, and neither the socket nor the mark is concerned. -/
theorem Sound.moveAcceptor (sound : outline.Sound) {old next : Acceptor} (here : outline.acceptor = old)
    (present : old ≠ .absent) (stays : next ≠ .absent) (undone : old.isDone = false)
    (released : next.hasReleased = old.hasReleased) : Sound { outline with acceptor := next } := by
  subst here
  exact { sound with
    served := by simpa [released] using sound.served
    acceptor_absent := by simpa [present, stays] using sound.acceptor_absent
    done := fun ended => absurd (sound.done ended) (by simp [undone]) }

/-- The acceptor lets go of the socket. -/
theorem Sound.releaseSocket (sound : outline.Sound) {old next : Acceptor} (here : outline.acceptor = old)
    (present : old ≠ .absent) (released : next.hasReleased) (done : old.isDone → next.isDone) :
    Sound { outline with socket := .released, acceptor := next } := by
  subst here
  have started : outline.opening = some .started := by simpa [present] using sound.acceptor_absent
  have stays : next ≠ .absent := by
    rintro rfl
    cases released
  exact { sound with
    unclaimed := by simp [started]
    carried := by
      intro place opened notStarted
      rw [started] at opened
      exact absurd (Option.some.inj opened).symm notStarted
    served := by simp [released]
    acceptor_absent := by simp [started, stays]
    done := fun ended => done (sound.done ended) }

/-- The acceptor is marked as done. -/
theorem Sound.markDone (sound : outline.Sound) {old next : Acceptor} (here : outline.acceptor = old)
    (present : old ≠ .absent) (done : next.isDone) (released : next.hasReleased = old.hasReleased) :
    Sound { outline with acceptorDone := true, acceptor := next } := by
  subst here
  have stays : next ≠ .absent := by
    rintro rfl
    cases done
  exact { sound with
    served := by simpa [released] using sound.served
    acceptor_absent := by simpa [present, stays] using sound.acceptor_absent
    done := fun _ => done
    draining := fun found => ⟨(sound.draining found).1, rfl⟩
    quiet := fun found joined => ⟨(sound.quiet found joined).1, rfl⟩ }

end Acceptor

section Connections

theorem Sound.accept (sound : outline.Sound) (present : outline.acceptor ≠ .absent) :
    Sound { outline with connections := outline.connections ++ [.accepted] } :=
  { sound with
    connected := fun _ => by simpa [present] using sound.acceptor_absent
    drained := by
      intro drained connection member
      rcases List.mem_append.mp member with old | new
      · exact sound.drained drained connection old
      · rw [List.mem_singleton.mp new]
        rfl
    cut := by
      intro requests member
      exact sound.cut requests (by simpa using member) }

/-- A connection moves on. It registers only while the handle is armed, and is cut only by force. -/
theorem Sound.putConnection (sound : outline.Sound) {number : Nat} {old new : Connection}
    (here : outline.connections[number]? = some old)
    (registers : new.isOpen → old.isOpen ∨ outline.handle = .armed)
    (cut : ∀ requests, new = .cut requests → outline.forceClose) :
    Sound { outline with connections := outline.connections.set number new } := by
  have member : old ∈ outline.connections := List.mem_of_getElem? here
  have started := sound.connected (List.ne_nil_of_mem member)
  exact { sound with
    connected := fun _ => started
    drained := by
      intro drained connection found
      rcases List.mem_or_eq_of_mem_set found with kept | rfl
      · exact sound.drained drained connection kept
      · cases isOpen : connection.isOpen with
        | false => rfl
        | true =>
          rcases registers isOpen with wasOpen | armed
          · rw [sound.drained drained old member] at wasOpen
            cases wasOpen
          · have taken := (sound.quiet drained (hasJoined_of_started started)).1
            rw [armed] at taken
            cases taken
    cut := by
      intro requests found
      rcases List.mem_or_eq_of_mem_set found with kept | same
      · exact sound.cut requests kept
      · exact cut requests same.symm }

end Connections

end Outline

end ServiceHost.Lifecycle
