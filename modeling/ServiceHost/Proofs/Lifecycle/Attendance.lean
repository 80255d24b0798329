import ServiceHost.Proofs.Lifecycle.Membership

/-!
Attendance: who takes a service out of the wait group again. As long as no caller gives up a call, a start, the
watcher or a shutdown always does. A shutdown that is given up leaves the service in the wait group for good.
-/

namespace ServiceHost

open Lifecycle

/-- Has a call at this place posted the watcher? -/
def Lifecycle.StartPlace.hasPosted : StartPlace → Bool
  | .running => false
  | place => place.hasLaunched

/-- Does a caller give up a call? -/
def Service.Action.givesUp : Service.Action → Bool
  | .abandonShutdown _ => true
  | .abandonWait _ => true
  | _ => false

variable {place : ShutdownPlace}

theorem Lifecycle.ShutdownPlace.isOver_of_waits (waits : place.waits) : place.isOver = false := by
  cases place <;> first | rfl | cases waits

theorem Lifecycle.ShutdownPlace.rank_le (place : ShutdownPlace) : place.rank ≤ 8 := by
  cases place <;> simp [ShutdownPlace.rank]

/-- Where an acting shutdown is over, it has left the wait group or was given up. -/
theorem Lifecycle.ShutdownPlace.isOver_cases (active : place.isActive) (isOver : place.isOver) :
    place.hasLeft ∨ place = .abandoned := by
  cases place with
  | left drained | returned drained => exact .inl rfl
  | abandoned => exact .inr rfl
  | called | repeated => cases active
  | _ => cases isOver

namespace Service

/-- The law of the watcher: it is there once a start has posted it, and a shutdown that it called for is its own
task until it is over. -/
structure Staffed (service : Service) : Prop where
  posted : service.watcher = .absent ↔ service.starts.any StartPlace.hasPosted = false
  tasked : ∀ (call : Nat) (request : ShutdownCall), service.shutdowns[call]? = some request →
    request.byWatcher → request.place.isOver ∨ service.watcher = .shutting call

/-- Somebody attends to a service in the wait group. -/
inductive Attended (service : Service) : Prop where
  /-- A start that is not over has yet to post the watcher. -/
  | starting {call : Nat} {place : StartPlace} (here : service.starts[call]? = some place)
      (joined : place.hasJoined) (unposted : place.hasPosted = false) (unasked : service.closing? = none)
  | watched (running : service.phase = .running)
      (alive : service.watcher = .watching ∨ ∃ call, service.watcher = .shutting call)
  /-- The watcher ended on its own. -/
  | unwatched {ending : Ending} (running : service.phase = .running) (ended : service.watcher = .ended ending)
      (own : ending ≠ .aborted)
  /-- A shutdown acts and is not over. If the watcher called for it, the watcher is still at it. -/
  | closing {call : Nat} {request : ShutdownCall} (here : service.shutdowns[call]? = some request)
      (active : request.isActive) (unfinished : request.place.isOver = false)
      (task : request.byWatcher → service.watcher = .shutting call)

/-- Nobody attends to the service: its shutdown was given up, or it runs and its watcher was aborted. -/
def IsForsaken (service : Service) : Prop :=
  service.closing? = some .abandoned ∨ service.phase = .running ∧ service.watcher = .ended .aborted

/-- A shutdown can take the service out of the wait group alone, by its own steps and at the latest when its
deadline elapses. -/
def CanLeave (service : Service) (call : Nat) : Prop :=
  ∃ later last said, (∀ taken ∈ later, taken.2 = .shutdown call ∨ taken.2 = .expire call) ∧
    service.run later = some (last, said) ∧ last.phase = .closed ∧ last.isAboard = false

variable {signalled : Bool} {action : Action} {limit : Duration} {service before after next last : Service}
  {effects said others : List Effect} {actions later : List (Bool × Action)} {call : Nat}

section Watcher

/-- Neither the starts nor the watcher nor the shutdowns change. -/
theorem Staffed.keep (staffed : before.Staffed) (starts : after.starts = before.starts)
    (watcher : after.watcher = before.watcher) (shutdowns : after.shutdowns = before.shutdowns) :
    after.Staffed := by
  refine ⟨?_, ?_⟩
  · rw [starts, watcher]
    exact staffed.posted
  · rw [shutdowns, watcher]
    exact staffed.tasked

/-- A start moves on and does not post the watcher. -/
theorem Staffed.moveStart (staffed : before.Staffed) {old new : StartPlace}
    (here : before.starts[call]? = some old) (oldUnposted : old.hasPosted = false)
    (newUnposted : new.hasPosted = false) (starts : next.starts = before.starts)
    (watcher : next.watcher = before.watcher) (shutdowns : next.shutdowns = before.shutdowns) :
    (next.moveStart call new).Staffed := by
  refine ⟨?_, ?_⟩
  · rw [Service.moveStart, starts, watcher, Roster.any_set_of_unmarked here oldUnposted newUnposted]
    exact staffed.posted
  · rw [Service.moveStart, shutdowns, watcher]
    exact staffed.tasked

/-- A shutdown moves on that is not over. -/
theorem Staffed.moveShutdown (staffed : before.Staffed) {request : ShutdownCall} {new : ShutdownPlace}
    (here : before.shutdowns[call]? = some request) (unfinished : request.place.isOver = false)
    (starts : next.starts = before.starts) (watcher : next.watcher = before.watcher)
    (shutdowns : next.shutdowns = before.shutdowns) : (next.moveShutdown call new).Staffed := by
  have stays : (next.moveShutdown call new).watcher = before.watcher := watcher
  refine ⟨?_, ?_⟩
  · rw [stays, Service.moveShutdown, starts]
    exact staffed.posted
  · intro other found there byWatcher
    rw [shutdowns_moveShutdown (shutdowns ▸ here), shutdowns] at there
    rw [stays]
    rcases (Roster.getElem?_set here).mp there with ⟨rfl, rfl⟩ | ⟨_, kept⟩
    · exact (staffed.tasked other request here byWatcher).imp_left (by simp [unfinished])
    · exact staffed.tasked other found kept byWatcher

/-- While the watcher is not at a shutdown, those it called for are over. -/
theorem Staffed.isOver_of_idle (staffed : before.Staffed) (idle : ∀ call, before.watcher ≠ .shutting call)
    {request : ShutdownCall} (here : before.shutdowns[call]? = some request) (byWatcher : request.byWatcher) :
    request.place.isOver :=
  (staffed.tasked call request here byWatcher).resolve_right (idle call)

/-- A watcher that was posted and is not at a shutdown changes its state. -/
theorem Staffed.moveWatcher (staffed : before.Staffed) {watcher : Watcher} (there : before.watcher ≠ .absent)
    (stays : watcher ≠ .absent)
    (isOver : ∀ (call : Nat) (request : ShutdownCall), before.shutdowns[call]? = some request →
      request.byWatcher → request.place.isOver) : Staffed { before with watcher } := by
  refine ⟨?_, fun call request here byWatcher => .inl (isOver call request here byWatcher)⟩
  have posted : ¬before.starts.any StartPlace.hasPosted = false := fun unposted =>
    there (staffed.posted.mpr unposted)
  simp [stays, posted]

theorem Staffed.alarmed (staffed : before.Staffed) (watching : before.watcher = .watching) :
    before.alarmed.Staffed := by
  have posted : ¬before.starts.any StartPlace.hasPosted = false := fun unposted => by
    rw [staffed.posted.mpr unposted] at watching
    cases watching
  refine ⟨by simp [Service.alarmed, posted], fun call request here byWatcher => ?_⟩
  rcases Roster.getElem?_snoc.mp here with old | ⟨rfl, rfl⟩
  · exact .inl (staffed.isOver_of_idle (by simp [watching]) old byWatcher)
  · exact .inr rfl

/-- The start that took the socket tells whether the watcher was posted. -/
theorem Sound.any_hasPosted (sound : service.Sound) {place : StartPlace}
    (here : service.starts[call]? = some place) (claimed : place.hasClaimed) :
    service.starts.any StartPlace.hasPosted = place.hasPosted := by
  refine (sound.soleStart.soleAt here claimed).any_eq here fun other posted => ?_
  cases other <;> first | rfl | cases posted

/-- Each move keeps the law of the watcher. -/
theorem Staffed.move (staffed : before.Staffed) (sound : before.Sound)
    (moves : Move signalled before action after effects) : after.Staffed := by
  cases moves with
  | callStart =>
    refine ⟨?_, staffed.tasked⟩
    have kept : (before.starts ++ [StartPlace.called]).any StartPlace.hasPosted =
        before.starts.any StartPlace.hasPosted := by
      rw [List.any_append, List.any_cons, List.any_nil]
      exact Bool.or_false _
    rw [kept]
    exact staffed.posted
  | callShutdown limit =>
    refine ⟨staffed.posted, fun call request here byWatcher => ?_⟩
    rcases Roster.getElem?_snoc.mp here with old | ⟨_, rfl⟩
    · exact staffed.tasked call request old byWatcher
    · cases byWatcher
  | claim here | refuse here | arm here | join here | launch here =>
    exact staffed.moveStart here rfl rfl rfl rfl rfl
  | watch here unlocked =>
    have absent : before.watcher = .absent := staffed.posted.mpr (sound.any_hasPosted here rfl)
    refine ⟨?_, fun call request there byWatcher => ?_⟩
    · have posted : (before.starts.set _ .watching).any StartPlace.hasPosted :=
        List.any_eq_true.mpr ⟨.watching, List.mem_of_getElem? (getElem?_moveStart here), rfl⟩
      simp [Service.moveStart, posted]
    · exact .inl (staffed.isOver_of_idle (by simp [absent]) there byWatcher)
  | serve here =>
    have present : before.watcher ≠ .absent := fun absent => by
      have unposted := staffed.posted.mp absent
      rw [sound.any_hasPosted here rfl] at unposted
      cases unposted
    refine ⟨?_, staffed.tasked⟩
    have posted : (before.starts.set _ .started).any StartPlace.hasPosted :=
      List.any_eq_true.mpr ⟨.started, List.mem_of_getElem? (getElem?_moveStart here), rfl⟩
    simp [Service.moveStart, posted, present]
  | latch here place | again here place | halt here place | drain here place | free here place =>
    exact staffed.moveShutdown here (by rw [place]; rfl) rfl rfl rfl
  | settle here place | force here place | close here place | leave here place | giveBack here place =>
    exact staffed.moveShutdown here (by rw [place]; rfl) rfl rfl rfl
  | expire here waits | forsake here waits =>
    exact staffed.moveShutdown here (ShutdownPlace.isOver_of_waits waits) rfl rfl rfl
  | hearCancellation watching | hearSignal _ watching => exact staffed.alarmed watching
  | hearStop watching | panicWatcher watching | abortWatching _ watching =>
    exact staffed.moveWatcher (by simp [watching]) (by simp) fun call request here =>
      staffed.isOver_of_idle (by simp [watching]) here
  | @abortShutting call request told shutting here waits =>
    have moved : (before.moveShutdown call .abandoned).Staffed :=
      staffed.moveShutdown here (ShutdownPlace.isOver_of_waits waits) rfl rfl rfl
    refine moved.moveWatcher (by simp [Service.moveShutdown, shutting]) (by simp) ?_
    intro other found there byWatcher
    rcases moved.tasked other found there byWatcher with isOver | same
    · exact isOver
    · obtain rfl : call = other := Watcher.shutting.inj (shutting.symm.trans same)
      rw [getElem?_moveShutdown here] at there
      cases there
      rfl
  | @endWatcher call request shutting here ended =>
    refine staffed.moveWatcher (by simp [shutting]) (by simp) fun other found there byWatcher => ?_
    rcases staffed.tasked other found there byWatcher with isOver | same
    · exact isOver
    · obtain rfl : call = other := Watcher.shutting.inj (shutting.symm.trans same)
      obtain rfl := Option.some.inj (here.symm.trans there)
      exact ended
  | _ => exact staffed.keep rfl rfl rfl

theorem staffed_of_run (ran : (opened limit).run actions = some (service, effects)) : service.Staffed := by
  refine history_induction (motive := fun _ service _ => service.Staffed) ?_ ?_ ran
  · exact ⟨by simp [opened], by simp [opened]⟩
  · exact fun _ sound moves staffed => staffed.move sound moves

end Watcher

section GivenUp

/-- A caller gave up a call: a shutdown, or a call that waits, after which its workers are aborted. -/
def HasGivenUp (service : Service) : Prop :=
  service.aborting ≠ [] ∨ service.watcher = .ended .aborted ∨
    ∃ request ∈ service.shutdowns, request.place = .abandoned

theorem mem_of_mem_moveShutdown {request other : ShutdownCall} {new : ShutdownPlace}
    (here : before.shutdowns[call]? = some request) (member : other ∈ (next.moveShutdown call new).shutdowns)
    (abandoned : other.place = .abandoned) (shutdowns : next.shutdowns = before.shutdowns)
    (kept : new ≠ .abandoned) : other ∈ before.shutdowns := by
  rw [shutdowns_moveShutdown (shutdowns ▸ here), shutdowns] at member
  rcases List.mem_or_eq_of_mem_set member with old | rfl
  · exact old
  · exact absurd abandoned kept

/-- Only a caller makes a call given up. -/
theorem Move.hasGivenUp (moves : Move signalled before action after effects) (givenUp : after.HasGivenUp) :
    before.HasGivenUp ∨ action.givesUp := by
  rcases givenUp with told | aborted | ⟨request, member, abandoned⟩
  · cases moves with
    | abandonWait => exact .inr rfl
    | _ => exact .inl (.inl told)
  · cases moves with
    | abortWatching told | abortShutting told => exact .inl (.inl (List.ne_nil_of_mem told))
    | watch | hearCancellation | hearSignal | hearStop | panicWatcher | endWatcher => cases aborted
    | _ => exact .inl (.inr (.inl aborted))
  · have extend (known : request ∈ before.shutdowns) : before.HasGivenUp ∨ action.givesUp :=
      .inl (.inr (.inr ⟨request, known, abandoned⟩))
    cases moves with
    | forsake => exact .inr rfl
    | abortShutting told => exact .inl (.inl (List.ne_nil_of_mem told))
    | callShutdown | hearCancellation | hearSignal =>
      rcases List.mem_append.mp member with old | fresh
      · exact extend old
      · rw [List.mem_singleton.mp fresh] at abandoned
        cases abandoned
    | latch here | again here | halt here | drain here | free here =>
      exact extend (mem_of_mem_moveShutdown here member abandoned rfl (by simp))
    | settle here | force here | close here | leave here | giveBack here | expire here =>
      exact extend (mem_of_mem_moveShutdown here member abandoned rfl (by simp))
    | _ => exact extend member

theorem givesUp_of_hasGivenUp (ran : (opened limit).run actions = some (service, effects)) :
    service.HasGivenUp → ∃ taken ∈ actions, taken.2.givesUp := by
  refine history_induction (motive := fun actions service _ =>
    service.HasGivenUp → ∃ taken ∈ actions, taken.2.givesUp) (by simp [opened, HasGivenUp]) ?_ ran
  intro actions signalled action before after said effects _ _ moves earlier givenUp
  rcases moves.hasGivenUp givenUp with already | givesUp
  · obtain ⟨taken, member, givesUp⟩ := earlier already
    exact ⟨taken, List.mem_append_left _ member, givesUp⟩
  · exact ⟨(signalled, action), by simp, givesUp⟩

theorem IsForsaken.hasGivenUp (forsaken : service.IsForsaken) : service.HasGivenUp := by
  rcases forsaken with abandoned | ⟨_, aborted⟩
  · obtain ⟨request, leads, place⟩ := Option.map_eq_some_iff.mp abandoned
    exact .inr (.inr ⟨request, List.mem_of_find?_eq_some leads, place⟩)
  · exact .inr (.inl aborted)

/-- A service whose shutdown was given up is in the wait group. -/
theorem Sound.isAboard_of_abandoned (sound : service.Sound) {request : ShutdownCall}
    (here : service.shutdowns[call]? = some request) (abandoned : request.place = .abandoned) :
    service.isAboard ∧ service.phase = .shuttingDown := by
  have closing : service.closing? = some .abandoned :=
    abandoned ▸ sound.closing?_eq here (by rw [ShutdownCall.isActive, abandoned]; rfl)
  have joined : service.hasJoined := sound.hasJoined_eq.trans (sound.outline.suits _ closing)
  have unleft := sound.any_hasLeft here abandoned rfl
  have law : service.phase = Outline.phaseOf service.opening? service.closing? := sound.outline.phase_eq
  refine ⟨?_, ?_⟩
  · rw [isAboard, hasLeft, joined, unleft]
    rfl
  · rw [law, closing]
    rfl

/-- Whatever happens after a shutdown was given up, the service stays in the wait group. -/
theorem Sound.isAboard_of_run (sound : service.Sound) {request : ShutdownCall}
    (here : service.shutdowns[call]? = some request) (abandoned : request.place = .abandoned)
    (continued : service.run later = some (last, others)) : last.isAboard ∧ last.phase = .shuttingDown := by
  obtain ⟨request, here, abandoned⟩ : ∃ request, last.shutdowns[call]? = some request ∧
      request.place = .abandoned := by
    refine sound.run_induction
      (motive := fun last => ∃ request, last.shutdowns[call]? = some request ∧ request.place = .abandoned)
      ?_ ⟨request, here, abandoned⟩ continued
    rintro signalled action before after effects _ moves ⟨request, here, abandoned⟩
    rcases moves.shutdown_goesOn here with stays | ⟨place, follows, _, _⟩
    · exact ⟨request, stays, abandoned⟩
    · have ahead := follows.rank_lt
      have atEnd := place.rank_le
      rw [abandoned, ShutdownPlace.rank] at ahead
      omega
  exact (sound.run continued).isAboard_of_abandoned here abandoned

end GivenUp

section Leaving

theorem CanLeave.of_step (own : action = .shutdown call ∨ action = .expire call)
    (stepped : service.step false action = some (next, said)) (canLeave : next.CanLeave call) :
    service.CanLeave call := by
  obtain ⟨later, last, others, alone, continued, ashore⟩ := canLeave
  refine ⟨(false, action) :: later, last, said ++ others, ?_, run_cons.mpr ⟨_, _, _, stepped, continued, rfl⟩,
    ashore⟩
  exact List.forall_mem_cons.mpr ⟨own, alone⟩

/-- A shutdown that acts goes on alone, by its next step or because its deadline elapses. -/
def Advances (service : Service) (call : Nat) (request : ShutdownCall) : Prop :=
  ∃ action place after said, (action = .shutdown call ∨ action = .expire call) ∧
    service.step false action = some (after, said) ∧ after.shutdowns[call]? = some { request with place } ∧
    request.place.rank < place.rank ∧ place.isActive ∧ place ≠ .abandoned

theorem advances_of_step {request : ShutdownCall} {place new : ShutdownPlace}
    (here : service.shutdowns[call]? = some request) (isThere : request.place = place)
    (active : request.isActive) (follows : place.Follows service.phase new)
    (stepped : service.stepShutdown call request.limit place = some (next.moveShutdown call new, said))
    (shutdowns : next.shutdowns = service.shutdowns) (kept : new ≠ .abandoned) :
    service.Advances call request := by
  subst isThere
  have moved : (said.foldl hear (next.moveShutdown call new)).shutdowns[call]? =
      some { request with place := new } := by
    rw [shutdowns_foldl_hear]
    exact getElem?_moveShutdown (shutdowns ▸ here) new
  exact ⟨.shutdown call, new, _, said, .inl rfl, step_shutdown here rfl stepped false, moved, follows.rank_lt,
    follows.isActive active, kept⟩

theorem advances_of_waits {request : ShutdownCall} (here : service.shutdowns[call]? = some request)
    (waits : request.place.waits) : service.Advances call request := by
  have follows : request.place.Follows service.phase .expired := .expire waits
  refine ⟨.expire call, .expired, service.moveShutdown call .expired, [], .inr rfl, ?_,
    getElem?_moveShutdown here .expired, follows.rank_lt, rfl, by simp⟩
  simp [step, act, here, waits]

theorem Sound.advances (sound : service.Sound) {request : ShutdownCall}
    (here : service.shutdowns[call]? = some request) (active : request.isActive)
    (unfinished : request.place.isOver = false) : service.Advances call request := by
  have unlocked := sound.stateLocked_eq_false here active
  cases place : request.place with
  | called | repeated =>
    rw [ShutdownCall.isActive, place] at active
    cases active
  | returned | abandoned =>
    rw [place] at unfinished
    cases unfinished
  | latched started => exact advances_of_step here place active (.halt started) rfl rfl (by simp)
  | stopping started =>
    cases started with
    | true => exact advances_of_waits here (by rw [place]; rfl)
    | false => exact advances_of_step here place active .free rfl rfl (by simp)
  | draining => exact advances_of_waits here (by rw [place]; rfl)
  | expired => exact advances_of_step here place active .force rfl rfl (by simp)
  | settled started drained =>
    have stepped : service.stepShutdown call request.limit (.settled started drained) =
        some ({ service with phase := .closed }.moveShutdown call (.closed started drained), []) := by
      rw [stepShutdown, unlocked]
      rfl
    exact advances_of_step here place active (.close started drained) stepped rfl (by simp)
  | closed started drained =>
    exact advances_of_step here place active (.leave started drained) rfl rfl (by simp)
  | left drained => exact advances_of_step here place active (.giveBack drained) rfl rfl (by simp)

/-- A shutdown that acts and is not over can close the service and leave the wait group alone. -/
theorem Sound.canLeave {service : Service} (sound : service.Sound) {request : ShutdownCall}
    (here : service.shutdowns[call]? = some request) (active : request.isActive)
    (kept : request.place ≠ .abandoned) : service.CanLeave call := by
  cases left : request.place.hasLeft with
  | true =>
    have closed := sound.phase_of_hasClosed here active (ShutdownPlace.hasClosed_of_hasLeft left)
    have gone := (sound.any_hasLeft here rfl active).trans left
    refine ⟨[], service, [], by simp, rfl, closed, ?_⟩
    rw [isAboard, hasLeft, gone, Bool.and_true, Bool.and_not_self]
  | false =>
    have unfinished : request.place.isOver = false := by
      rw [Bool.eq_false_iff]
      intro isOver
      rcases ShutdownPlace.isOver_cases active isOver with gone | abandoned
      · rw [gone] at left
        cases left
      · exact kept abandoned
    obtain ⟨action, place, after, said, own, stepped, there, ahead, active, kept⟩ :=
      sound.advances here active unfinished
    have atEnd := place.rank_le
    have soundAfter := sound.move (move_of_step stepped)
    exact .of_step own stepped (soundAfter.canLeave there active kept)
termination_by 8 - request.place.rank

end Leaving

/-- While a shutdown acts, the service does not run. -/
theorem Sound.phase_ne_running (sound : service.Sound) (closing : service.closing? = some place) :
    service.phase ≠ .running := by
  have law : service.phase = Outline.phaseOf service.opening? service.closing? := sound.outline.phase_eq
  rw [law, closing, Outline.phaseOf]
  split <;> simp

/-- Once the watcher was posted, a service that no shutdown acts on runs. -/
theorem Sound.phase_of_hasPosted (sound : service.Sound) {place : StartPlace}
    (here : service.starts[call]? = some place) (posted : place.hasPosted) (unasked : service.closing? = none) :
    service.phase = .running := by
  have law : service.phase = Outline.phaseOf service.opening? service.closing? := sound.outline.phase_eq
  have claimed : place.hasClaimed := by cases place <;> first | rfl | cases posted
  have launched : place.hasLaunched := by cases place <;> first | rfl | cases posted
  rw [law, unasked, sound.opening?_eq here claimed, Outline.phaseOf, Option.any_some, if_pos launched]

theorem Attended.not_isForsaken (attended : service.Attended) (sound : service.Sound)
    (staffed : service.Staffed) : ¬service.IsForsaken := by
  rintro (abandoned | ⟨running, aborted⟩)
  · have stopped := sound.phase_ne_running abandoned
    cases attended with
    | starting here joined unposted unasked =>
      rw [unasked] at abandoned
      cases abandoned
    | watched running | unwatched running => exact stopped running
    | closing here active unfinished =>
      rw [sound.closing?_eq here active] at abandoned
      rw [Option.some.inj abandoned] at unfinished
      cases unfinished
  · cases attended with
    | @starting call place here joined unposted unasked =>
      have claimed : place.hasClaimed := by cases place <;> first | rfl | cases joined
      have absent := staffed.posted.mpr ((sound.any_hasPosted here claimed).trans unposted)
      rw [absent] at aborted
      cases aborted
    | watched running alive =>
      rw [aborted] at alive
      rcases alive with watching | ⟨call, shutting⟩
      · cases watching
      · cases shutting
    | unwatched running ended own =>
      rw [aborted] at ended
      exact own (Watcher.ended.inj ended).symm
    | closing here active => exact sound.phase_ne_running (sound.closing?_eq here active) running

theorem Sound.attended (sound : service.Sound) (staffed : service.Staffed) (aboard : service.isAboard)
    (kept : ¬service.IsForsaken) : service.Attended := by
  obtain ⟨joined, unleft⟩ := Bool.and_eq_true_iff.mp aboard
  cases closing : service.closing? with
  | none =>
    obtain ⟨place, member, joined⟩ := List.any_eq_true.mp joined
    obtain ⟨call, here⟩ := List.getElem?_of_mem member
    cases posted : place.hasPosted with
    | false => exact .starting here joined posted closing
    | true =>
      have running := sound.phase_of_hasPosted here posted closing
      cases watcher : service.watcher with
      | absent =>
        have unposted := List.any_eq_false.mp (staffed.posted.mp watcher) place member
        exact absurd posted unposted
      | watching => exact .watched running (.inl watcher)
      | shutting call => exact .watched running (.inr ⟨call, watcher⟩)
      | ended ending =>
        refine .unwatched running watcher fun aborted => ?_
        exact kept (.inr ⟨running, aborted ▸ watcher⟩)
  | some place =>
    obtain ⟨request, leads, rfl⟩ := Option.map_eq_some_iff.mp closing
    obtain ⟨active, call, here⟩ := Roster.find?_eq_some leads
    have unfinished : request.place.isOver = false := by
      rw [Bool.eq_false_iff]
      intro isOver
      rcases ShutdownPlace.isOver_cases active isOver with left | abandoned
      · rw [Bool.not_eq_true', hasLeft, joined, Bool.true_and, sound.any_hasLeft here rfl active, left] at unleft
        cases unleft
      · exact kept (.inl (abandoned ▸ closing))
    refine .closing here active unfinished fun byWatcher => ?_
    exact (staffed.tasked call request here byWatcher).resolve_left (by simp [unfinished])

/-- A service in the wait group is attended to unless it was forsaken, which takes a caller that gives up a call.
If the call was the shutdown that acts, the service never leaves the wait group again; as long as it is not given
up, that shutdown can leave alone. -/
theorem attended_unless_givenUp (ran : (opened limit).run actions = some (service, effects))
    (aboard : service.isAboard) :
    (service.Attended ↔ ¬service.IsForsaken) ∧
    (service.IsForsaken → ∃ taken ∈ actions, taken.2.givesUp) ∧
    (service.closing? = some .abandoned → ∀ later last others, service.run later = some (last, others) →
      last.isAboard ∧ last.phase = .shuttingDown) ∧
    ∀ call request, service.shutdowns[call]? = some request → request.isActive →
      request.place.isOver = false → service.CanLeave call := by
  have sound := sound_of_run ran
  have staffed := staffed_of_run ran
  refine ⟨⟨fun attended => attended.not_isForsaken sound staffed, sound.attended staffed aboard⟩,
    fun forsaken => givesUp_of_hasGivenUp ran forsaken.hasGivenUp, ?_, ?_⟩
  · intro closing later last others continued
    obtain ⟨request, leads, abandoned⟩ := Option.map_eq_some_iff.mp closing
    obtain ⟨_, call, here⟩ := Roster.find?_eq_some leads
    exact sound.isAboard_of_run here abandoned continued
  · intro call request here active unfinished
    refine sound.canLeave here active fun abandoned => ?_
    rw [abandoned] at unfinished
    cases unfinished

/-- A service is started, and its acceptor sleeps. -/
def startedAndIdle : List (Bool × Action) :=
  [.callStart, .start 0, .start 0, .start 0, .start 0, .start 0, .start 0, .advance, .advance, .park].map
    (false, ·)

/-- The caller of a shutdown does not wait for the acceptor. -/
def shutdownGivenUp : List (Bool × Action) :=
  startedAndIdle ++
    [.callShutdown (.ofSeconds 5), .shutdown 0, .shutdown 0, .abandonShutdown 0].map (false, ·)

/-- The caller that waits for the workers gives up, and both are aborted. -/
def waitGivenUp : List (Bool × Action) :=
  startedAndIdle ++
    [.callWait, .take 0, .abandonWait 0, .abortWatcher, .abortAcceptor, .advance].map (false, ·)

theorem attended_unless_givenUp_shutdown :
    ∃ service effects, (opened (.ofSeconds 30)).run shutdownGivenUp = some (service, effects) ∧
      service.isAboard ∧ ¬service.Attended ∧
      ∀ later last others, service.run later = some (last, others) →
        last.isAboard ∧ last.phase = .shuttingDown := by
  obtain ⟨⟨service, effects⟩, ran⟩ := Option.isSome_iff_exists.mp
    (show ((opened (.ofSeconds 30)).run shutdownGivenUp).isSome by decide)
  have reached : ((opened (.ofSeconds 30)).run shutdownGivenUp).map
      (fun ended => (ended.1.isAboard, ended.1.closing?)) = some (true, some .abandoned) := by decide
  rw [ran, Option.map_some, Option.some.injEq, Prod.mk.injEq] at reached
  obtain ⟨attended, _, stays, _⟩ := attended_unless_givenUp ran reached.1
  exact ⟨service, effects, ran, reached.1, fun attends => attended.mp attends (.inl reached.2), stays reached.2⟩

/-- The service runs without a watcher, so that the shared signal does not stop it. -/
theorem unwatched_after_waitGivenUp :
    ∃ service effects, (opened (.ofSeconds 30)).run waitGivenUp = some (service, effects) ∧
      service.isAboard ∧ service.phase = .running ∧ ¬service.Attended ∧
      service.step true .hearSignal = none := by
  obtain ⟨⟨service, effects⟩, ran⟩ := Option.isSome_iff_exists.mp
    (show ((opened (.ofSeconds 30)).run waitGivenUp).isSome by decide)
  have reached : ((opened (.ofSeconds 30)).run waitGivenUp).map
      (fun ended => (ended.1.isAboard, ended.1.phase, ended.1.watcher, (ended.1.step true .hearSignal).isNone)) =
        some (true, .running, .ended .aborted, true) := by decide
  simp only [ran, Option.map_some, Option.some.injEq, Prod.mk.injEq] at reached
  obtain ⟨aboard, running, aborted, unheard⟩ := reached
  have unattended : ¬service.Attended := fun attended =>
    attended.not_isForsaken (sound_of_run ran) (staffed_of_run ran) (.inr ⟨running, aborted⟩)
  exact ⟨service, effects, ran, aboard, running, unattended, Option.isNone_iff_eq_none.mp unheard⟩

end Service

end ServiceHost
