import ServiceHost.Lifecycle.AcceptError
import ServiceHost.Proofs.Lifecycle.Custody
import ServiceHost.Proofs.Lifecycle.Release

/-!
Outcomes: how the workers of a service end, and which call that waits hears of it. A worker ends in one way for
good, and the one call that has the workers reports the first of them that failed.
-/

namespace ServiceHost

open Lifecycle

/-- How an acceptor at this place ends or has ended, once that is settled. -/
def Lifecycle.Acceptor.outcome? : Acceptor → Option Ending
  | .leaving ending => some ending
  | .released ending => some ending
  | .unwinding ending => some ending
  | .ended ending => some ending
  | _ => none

/-- How a watcher has ended. -/
def Lifecycle.Watcher.outcome? : Watcher → Option Ending
  | .ended ending => some ending
  | _ => none

/-- A shutdown at this place has yet to see that the acceptor is done. -/
inductive Lifecycle.ShutdownPlace.Awaits (phase : Phase) : ShutdownPlace → Prop where
  | called (running : phase = .running) : Awaits phase .called
  | latched : Awaits phase (.latched true)
  | stopping : Awaits phase (.stopping true)

theorem Lifecycle.WaitCall.result?_of_returned {call : WaitCall} (returned : call.place = .returned) :
    call.result? = some (match call.error? with | none => .ok () | some error => .error error) := by
  rw [WaitCall.result?, returned]
  cases call.error? <;> rfl

/-- With an action a worker fails: the acceptor by an error of its socket, either one by a panic. -/
inductive Service.Action.Fails : Action → Worker → ServerError → Prop where
  | serve (cause : String) : Fails (.failAcceptor cause) .acceptor (.serve cause)
  | panicAcceptor : Fails .panicAcceptor .acceptor (.taskPanicked "serve loop")
  | panicWatcher : Fails .panicWatcher .watcher (.taskPanicked "shutdown watcher")

namespace Service

/-- How a worker ends or has ended, once that is settled. -/
def outcome? (service : Service) : Worker → Option Ending
  | .watcher => service.watcher.outcome?
  | .acceptor => service.acceptor.outcome?

/-- In some actions, a worker failed. -/
def Failed (actions : List (Bool × Action)) (worker : Worker) (error : ServerError) : Prop :=
  ∃ taken ∈ actions, taken.2.Fails worker error

/-- Of some workers in order, the first that failed did so with an error. -/
def FailedFirst (actions : List (Bool × Action)) (workers : List Worker) (error : ServerError) : Prop :=
  ∃ front worker back, workers = front ++ worker :: back ∧ Failed actions worker error ∧
    ∀ earlier ∈ front, ∀ error, ¬Failed actions earlier error

/-- In a run, a call that waits took what was in the pool after a start had returned. -/
def BegunAfterStart (service : Service) (actions : List (Bool × Action)) : Prop :=
  ∃ first signalled wait rest before said call, actions = first ++ (signalled, .take wait) :: rest ∧
    service.run first = some (before, said) ∧ before.startResultOf? call = some (.ok ())

/-- A call that waits comes to its end by steps of its own. -/
def Finishes (service : Service) (number : Nat) : Prop :=
  ∃ own last, (∀ taken ∈ own, taken.2 = .endWait number ∨ ∃ worker, taken.2 = .join number worker) ∧
    service.run own = some (last, []) ∧ ∃ call, last.waits[number]? = some call ∧ call.place = .returned

/-- A shutdown comes to drain the connections by steps of its own. -/
def StartsDraining (service : Service) (call : Nat) : Prop :=
  ∃ count last said, service.run (List.replicate count (false, .shutdown call)) = some (last, said) ∧
    last.shutdownPlace? call = some .draining

/-- What a call that waits knows of the workers is true. -/
structure Truthful (service : Service) (call : WaitCall) : Prop where
  joinedAll : call.place = .returned → call.pending = []
  told : ∀ worker ending, (worker, ending) ∈ call.joined → service.ending? worker = some ending

variable {signalled : Bool} {action : Action} {limit : Duration} {service before after next last : Service}
  {effects said others : List Effect} {actions later : List (Bool × Action)} {number : Nat} {worker : Worker}
  {ending : Ending} {error : ServerError}

section Endings

theorem ending?_watcher : service.ending? .watcher = some ending ↔ service.watcher = .ended ending := by
  cases watcher : service.watcher <;> simp [ending?, watcher]

theorem ending?_acceptor : service.ending? .acceptor = some ending ↔ service.acceptor = .ended ending := by
  cases acceptor : service.acceptor <;> simp [ending?, acceptor]

theorem outcome?_of_ending? (ended : service.ending? worker = some ending) :
    service.outcome? worker = some ending := by
  cases worker with
  | watcher => rw [outcome?, ending?_watcher.mp ended, Watcher.outcome?]
  | acceptor => rw [outcome?, ending?_acceptor.mp ended, Acceptor.outcome?]

/-- A worker that has ended stays so. -/
theorem Sound.ending?_of_move (sound : before.Sound) (staffed : before.Staffed)
    (moves : Move signalled before action after effects) (ended : before.ending? worker = some ending) :
    after.ending? worker = some ending := by
  cases worker with
  | watcher =>
    have elsewhere {watcher : Watcher} (isThere : before.watcher = watcher)
        (alive : ∀ ending, watcher ≠ .ended ending) : after.ending? .watcher = some ending :=
      absurd (isThere.symm.trans (ending?_watcher.mp ended)) (alive ending)
    cases moves with
    | watch here => exact elsewhere (staffed.posted.mpr (sound.any_hasPosted here rfl)) nofun
    | hearCancellation isThere | hearSignal _ isThere | hearStop isThere | panicWatcher isThere =>
      exact elsewhere isThere nofun
    | abortWatching _ isThere | abortShutting _ isThere | endWatcher isThere => exact elsewhere isThere nofun
    | _ => exact ended
  | acceptor =>
    have elsewhere {acceptor : Acceptor} (isThere : before.acceptor = acceptor)
        (alive : ∀ ending, acceptor ≠ .ended ending) : after.ending? .acceptor = some ending :=
      absurd (isThere.symm.trans (ending?_acceptor.mp ended)) (alive ending)
    cases moves with
    | serve here => exact elsewhere (sound.acceptor_absent_of_watching here) nofun
    | begin isThere | look isThere | release isThere | mark isThere | unwind isThere =>
      exact elsewhere isThere nofun
    | accept isThere | skip isThere | park isThere | wake isThere | fail cause isThere =>
      exact elsewhere isThere nofun
    | panicAcceptor isThere | abortSpawned _ isThere | abortParked _ isThere => exact elsewhere isThere nofun
    | _ => exact ended

/-- How a worker ends is settled for good. -/
theorem Sound.outcome?_of_move (sound : before.Sound) (staffed : before.Staffed)
    (moves : Move signalled before action after effects) (settled : before.outcome? worker = some ending) :
    after.outcome? worker = some ending := by
  cases worker with
  | watcher =>
    refine outcome?_of_ending? (sound.ending?_of_move staffed moves ?_)
    rw [ending?_watcher]
    cases watcher : before.watcher <;> simp_all [outcome?, Watcher.outcome?]
  | acceptor =>
    have elsewhere {acceptor : Acceptor} (isThere : before.acceptor = acceptor)
        (unsettled : acceptor.outcome? = none) : after.outcome? .acceptor = some ending := by
      rw [outcome?, isThere, unsettled] at settled
      cases settled
    have goesOn {old new : Acceptor} (isThere : before.acceptor = old) (same : new.outcome? = old.outcome?) :
        new.outcome? = some ending := by
      rw [same, ← isThere]
      exact settled
    cases moves with
    | serve here => exact elsewhere (sound.acceptor_absent_of_watching here) rfl
    | begin isThere | look isThere => exact elsewhere isThere rfl
    | release isThere | mark isThere | unwind isThere => exact goesOn isThere rfl
    | accept isThere | skip isThere | park isThere | wake isThere | fail cause isThere =>
      exact elsewhere isThere rfl
    | panicAcceptor isThere | abortSpawned _ isThere | abortParked _ isThere => exact elsewhere isThere rfl
    | _ => exact settled

/-- What settles how a worker ends: the stop signal, the end of its own shutdown, a failure or an abort. -/
inductive Settles (service : Service) : Action → Worker → Ending → Prop where
  | stopped (stop : service.stop) : Settles service .advance .acceptor .finished
  | heard (stop : service.stop) : Settles service .hearStop .watcher .finished
  | served : Settles service .endWatcher .watcher .finished
  | failed {action : Action} {worker : Worker} {ending : Ending} {error : ServerError}
      (fails : action.Fails worker error) (same : ending.error? worker = some error) :
      Settles service action worker ending
  | aborted {action : Action} {worker : Worker} (told : worker ∈ service.aborting) :
      Settles service action worker .aborted

/-- The ending of a worker was settled before a move or by it. -/
theorem Move.outcome?_cameFrom (moves : Move signalled before action after effects)
    (settled : after.outcome? worker = some ending) :
    before.outcome? worker = some ending ∨ before.Settles action worker ending := by
  cases worker with
  | watcher =>
    cases moves with
    | watch | hearCancellation | hearSignal => cases settled
    | hearStop _ stopped =>
      cases settled
      exact .inr (.heard stopped)
    | endWatcher =>
      cases settled
      exact .inr .served
    | panicWatcher =>
      cases settled
      exact .inr (.failed .panicWatcher rfl)
    | abortWatching told | abortShutting told =>
      cases settled
      exact .inr (.aborted told)
    | _ => exact .inl settled
  | acceptor =>
    have kept {old new : Acceptor} (isThere : before.acceptor = old) (same : new.outcome? = old.outcome?)
        (settled : new.outcome? = some ending) : before.outcome? .acceptor = some ending := by
      rw [outcome?, isThere, ← same]
      exact settled
    cases moves with
    | serve | begin | accept | skip | park | wake => cases settled
    | look =>
      change (if before.stop then Acceptor.leaving .finished else .polling).outcome? = _ at settled
      split at settled
      · rename_i stopped
        cases settled
        exact .inr (.stopped stopped)
      · cases settled
    | release isThere | mark isThere | unwind isThere => exact .inl (kept isThere rfl settled)
    | fail cause =>
      cases settled
      exact .inr (.failed (.serve cause) rfl)
    | panicAcceptor =>
      cases settled
      exact .inr (.failed .panicAcceptor rfl)
    | abortSpawned told | abortParked told =>
      cases settled
      exact .inr (.aborted told)
    | _ => exact .inl settled

/-- An action with which a worker fails settles its ending. -/
theorem Move.outcome?_of_fails (moves : Move signalled before action after effects)
    (fails : action.Fails worker error) :
    ∃ ending, after.outcome? worker = some ending ∧ ending.error? worker = some error := by
  cases fails with
  | serve cause =>
    cases moves
    exact ⟨.failed cause, rfl, rfl⟩
  | panicAcceptor =>
    cases moves
    exact ⟨.panicked, rfl, rfl⟩
  | panicWatcher =>
    cases moves
    exact ⟨.panicked, rfl, rfl⟩

end Endings

section Failures

theorem Failed.snoc (failed : Failed actions worker error) (taken : Bool × Action) :
    Failed (actions ++ [taken]) worker error := by
  obtain ⟨earlier, member, fails⟩ := failed
  exact ⟨earlier, List.mem_append_left _ member, fails⟩

/-- As long as no call that waits is given up, no worker is told to abort. -/
theorem aborting_of_waitsOut (ran : (opened limit).run actions = some (service, effects)) :
    WaitsOut actions → service.aborting = [] := by
  refine history_induction (motive := fun actions service _ => WaitsOut actions → service.aborting = [])
    (fun _ => rfl) ?_ ran
  intro actions signalled action before after said effects _ _ moves earlier waitsOut
  have untold := earlier waitsOut.init
  cases moves with
  | abandonWait => cases waitsOut.latest
  | _ => exact untold

/-- A worker whose ending is settled finished or failed. -/
theorem finished_or_failed (ran : (opened limit).run actions = some (service, effects)) :
    WaitsOut actions → ∀ worker ending, service.outcome? worker = some ending →
      ending = .finished ∨ ∃ error, ending.error? worker = some error ∧ Failed actions worker error := by
  refine history_induction (motive := fun actions service _ => WaitsOut actions → ∀ worker ending,
    service.outcome? worker = some ending →
      ending = .finished ∨ ∃ error, ending.error? worker = some error ∧ Failed actions worker error) ?_ ?_ ran
  · rintro _ (_ | _) ending ⟨⟩
  · intro actions signalled action before after said effects reached _ moves earlier waitsOut worker ending settled
    rcases moves.outcome?_cameFrom settled with already | settles
    · refine (earlier waitsOut.init worker ending already).imp_right ?_
      rintro ⟨error, same, failed⟩
      exact ⟨error, same, failed.snoc _⟩
    · cases settles with
      | stopped | heard | served => exact .inl rfl
      | failed fails same => exact .inr ⟨_, same, (signalled, action), by simp, fails⟩
      | aborted told =>
        rw [aborting_of_waitsOut reached waitsOut.init] at told
        cases told

theorem outcome?_of_failed (ran : (opened limit).run actions = some (service, effects)) :
    Failed actions worker error → ∃ ending, service.outcome? worker = some ending ∧
      ending.error? worker = some error := by
  refine history_induction (motive := fun actions service _ => Failed actions worker error →
    ∃ ending, service.outcome? worker = some ending ∧ ending.error? worker = some error) ?_ ?_ ran
  · rintro ⟨taken, member, _⟩
    cases member
  · rintro actions signalled action before after said effects reached sound moves earlier ⟨taken, member, fails⟩
    rcases List.mem_append.mp member with known | new
    · obtain ⟨ending, settled, same⟩ := earlier ⟨taken, known, fails⟩
      exact ⟨ending, sound.outcome?_of_move (staffed_of_run reached) moves settled, same⟩
    · rw [List.mem_singleton.mp new] at fails
      exact moves.outcome?_of_fails fails

/-- The ending of a worker amounts to an error just if the worker failed with it. -/
theorem error?_eq_iff (ran : (opened limit).run actions = some (service, effects)) (waitsOut : WaitsOut actions)
    (settled : service.outcome? worker = some ending) :
    ending.error? worker = some error ↔ Failed actions worker error := by
  constructor
  · intro amounts
    rcases finished_or_failed ran waitsOut worker ending settled with rfl | ⟨other, same, failed⟩
    · cases amounts
    · obtain rfl := Option.some.inj (same.symm.trans amounts)
      exact failed
  · intro failed
    obtain ⟨other, same, amounts⟩ := outcome?_of_failed ran failed
    obtain rfl := Option.some.inj (same.symm.trans settled)
    exact amounts

end Failures

section Waits

variable {call : WaitCall}

theorem Truthful.keep (truthful : before.Truthful call)
    (stays : ∀ worker ending, before.ending? worker = some ending → after.ending? worker = some ending) :
    after.Truthful call :=
  ⟨truthful.joinedAll, fun worker ending joined => stays worker ending (truthful.told worker ending joined)⟩

/-- Each move keeps what the calls that wait know. -/
theorem Sound.truthful_of_move (sound : before.Sound) (staffed : before.Staffed)
    (moves : Move signalled before action after effects)
    (truthful : ∀ call ∈ before.waits, before.Truthful call) : ∀ call ∈ after.waits, after.Truthful call := by
  have stays (worker : Worker) (ending : Ending) (ended : before.ending? worker = some ending) :
      after.ending? worker = some ending := sound.ending?_of_move staffed moves ended
  have known (call : WaitCall) (member : call ∈ before.waits) : after.Truthful call :=
    (truthful call member).keep stays
  have put {number : Nat} {old new : WaitCall} (here : before.waits[number]? = some old)
      (law : after.Truthful old → after.Truthful new) :
      ∀ call ∈ before.waits.set number new, after.Truthful call := by
    intro call member
    rcases List.mem_or_eq_of_mem_set member with other | rfl
    · exact known call other
    · exact law (known old (List.mem_of_getElem? here))
  cases moves with
  | callWait =>
    intro call member
    rcases List.mem_append.mp member with other | fresh
    · exact known call other
    · rw [List.mem_singleton.mp fresh]
      exact ⟨nofun, nofun⟩
  | take here => exact put here fun law => ⟨nofun, law.told⟩
  | abandonWait here => exact put here fun law => ⟨nofun, law.told⟩
  | endWait here place none => exact put here fun law => ⟨fun _ => none, law.told⟩
  | joinWorker here ended place member =>
    refine put here fun law => ⟨fun isOver => ?_, fun worker ending joined => ?_⟩
    · rw [place] at isOver
      cases isOver
    · rcases List.mem_append.mp joined with earlier | latest
      · exact law.told worker ending earlier
      · cases List.mem_singleton.mp latest
        exact stays _ _ ended
  | _ => exact known

theorem truthful_of_run (ran : (opened limit).run actions = some (service, effects)) :
    ∀ call ∈ service.waits, service.Truthful call := by
  refine history_induction (motive := fun _ service _ => ∀ call ∈ service.waits, service.Truthful call)
    (by simp [opened]) ?_ ran
  exact fun reached sound moves truthful => sound.truthful_of_move (staffed_of_run reached) moves truthful

/-- What a call knows of a worker that it joined amounts to an error just if the worker failed with it. -/
theorem Truthful.error?_eq_iff (truthful : service.Truthful call)
    (ran : (opened limit).run actions = some (service, effects)) (waitsOut : WaitsOut actions)
    {joined : Worker × Ending} (member : joined ∈ call.joined) :
    joined.2.error? joined.1 = some error ↔ Failed actions joined.1 error :=
  Service.error?_eq_iff ran waitsOut (outcome?_of_ending? (truthful.told _ _ member))

/-- A call has no error just if no worker failed that it joined. -/
theorem Truthful.error?_eq_none_iff (truthful : service.Truthful call)
    (ran : (opened limit).run actions = some (service, effects)) (waitsOut : WaitsOut actions) :
    call.error? = none ↔ ∀ worker ∈ call.joined.map Prod.fst, ∀ error, ¬Failed actions worker error := by
  rw [WaitCall.error?, List.findSome?_eq_none_iff]
  constructor
  · intro silent worker member error failed
    obtain ⟨joined, among, rfl⟩ := List.mem_map.mp member
    have fine : joined.2.error? joined.1 = none := silent joined among
    rw [(truthful.error?_eq_iff ran waitsOut among).mpr failed] at fine
    cases fine
  · intro harmless joined among
    refine Option.eq_none_iff_forall_ne_some.mpr fun error amounts => ?_
    exact harmless joined.1 (List.mem_map_of_mem among) error
      ((truthful.error?_eq_iff ran waitsOut among).mp amounts)

/-- The error of a call is that of the first worker joined that failed. -/
theorem Truthful.error?_eq_some_iff (truthful : service.Truthful call)
    (ran : (opened limit).run actions = some (service, effects)) (waitsOut : WaitsOut actions) :
    call.error? = some error ↔ FailedFirst actions (call.joined.map Prod.fst) error := by
  rw [WaitCall.error?, List.findSome?_eq_some_iff]
  constructor
  · rintro ⟨front, joined, back, split, amounts, silent⟩
    have earlierTruthful : service.Truthful { call with joined := front } :=
      ⟨truthful.joinedAll, fun worker ending member => truthful.told worker ending (by simp [split, member])⟩
    refine ⟨front.map Prod.fst, joined.1, back.map Prod.fst, by simp [split], ?_, ?_⟩
    · exact (truthful.error?_eq_iff ran waitsOut (by simp [split])).mp amounts
    · exact (earlierTruthful.error?_eq_none_iff ran waitsOut).mp (List.findSome?_eq_none_iff.mpr silent)
  · rintro ⟨front, worker, back, split, failed, harmless⟩
    obtain ⟨first, rest, whole, rfl, same⟩ := List.map_eq_append_iff.mp split
    obtain ⟨joined, last, rfl, rfl, rfl⟩ := List.map_eq_cons_iff.mp same
    have earlierTruthful : service.Truthful { call with joined := first } :=
      ⟨truthful.joinedAll, fun worker ending member => truthful.told worker ending (by simp [whole, member])⟩
    have silent := (earlierTruthful.error?_eq_none_iff ran waitsOut).mpr harmless
    refine ⟨first, joined, last, whole, ?_, List.findSome?_eq_none_iff.mp silent⟩
    exact (truthful.error?_eq_iff ran waitsOut (by simp [whole])).mpr failed

/-- A call all of whose workers have ended joins one after the other and returns. -/
theorem finishes_of_ended (here : service.waits[number]? = some call) (place : call.place = .joining)
    (ended : ∀ worker ∈ call.pending, ∃ ending, service.ending? worker = some ending) :
    service.Finishes number := by
  induction pending : call.pending generalizing service call with
  | nil =>
    let done : WaitCall := { call with place := .returned }
    have stepped : service.step false (.endWait number) = some (service.putWait number done, []) := by
      simp [step, act, here, place, pending, done]
    refine ⟨[(false, .endWait number)], service.putWait number done, by simp, ?_, done,
      getElem?_putWait here done, rfl⟩
    exact run_cons.mpr ⟨_, [], [], stepped, rfl, rfl⟩
  | cons worker rest inductionHypothesis =>
    have member : worker ∈ call.pending := by simp [pending]
    obtain ⟨ending, isEnded⟩ := ended worker member
    let joined : WaitCall :=
      { call with pending := call.pending.erase worker, joined := call.joined ++ [(worker, ending)] }
    have stepped : service.step false (.join number worker) = some (service.putWait number joined, []) := by
      simp [step, act, here, isEnded, place, member, joined]
    have remain : joined.pending = rest := by rw [← List.erase_cons_head worker rest, ← pending]
    have stillEnded : ∀ other ∈ joined.pending, ∃ ending, (service.putWait number joined).ending? other =
        some ending := fun other among => ended other (List.mem_of_mem_erase among)
    obtain ⟨own, last, mine, ran, finished⟩ :=
      inductionHypothesis (getElem?_putWait here joined) place stillEnded remain
    refine ⟨(false, .join number worker) :: own, last, ?_, ?_, finished⟩
    · intro taken among
      rcases List.mem_cons.mp among with rfl | later
      · exact .inr ⟨worker, rfl⟩
      · exact mine taken later
    · exact run_cons.mpr ⟨_, [], [], stepped, ran, rfl⟩

end Waits

section Consumption

/-- The pool of a started service stays empty once it is. -/
theorem Sound.emptied_of_run (sound : service.Sound) {call : Nat}
    (started : service.starts[call]? = some .started) (empty : service.pool = [])
    (continued : service.run later = some (last, others)) :
    last.starts[call]? = some .started ∧ last.pool = [] := by
  refine sound.run_induction
    (motive := fun last => last.starts[call]? = some .started ∧ last.pool = []) ?_ ⟨started, empty⟩ continued
  rintro signalled action before after effects sound moves ⟨started, empty⟩
  have stays : after.starts[call]? = some .started := by
    rcases moves.start_goesOn sound started with stays | ⟨new, _, follows, _⟩
    · exact stays
    · cases follows
  have other {number : Nat} {place : StartPlace} (here : before.starts[number]? = some place)
      (claimed : place.hasClaimed) : place = .started :=
    Option.some.inj ((sound.opening?_eq here claimed).symm.trans (sound.opening?_eq started rfl))
  cases moves with
  | watch here | serve here => cases other here rfl
  | take => exact ⟨stays, rfl⟩
  | _ => exact ⟨stays, empty⟩

/-- Once a call that waits has begun after a start returned, the workers are not in the pool. -/
theorem taken_of_begunAfterStart (ran : (opened limit).run actions = some (service, effects))
    (begun : BegunAfterStart (opened limit) actions) :
    service.opening? = some .started ∧ service.pool = [] := by
  obtain ⟨first, signalled, wait, rest, before, said, call, rfl, reached, returned⟩ := begun
  obtain ⟨_, _, _, ranFirst, ranRest, rfl⟩ := run_append.mp ran
  obtain ⟨rfl, rfl⟩ := Prod.mk.inj (Option.some.inj (ranFirst.symm.trans reached))
  obtain ⟨next, _, _, stepped, continued, rfl⟩ := run_cons.mp ranRest
  have started := startResultOf?_eq_ok returned
  have moves := move_of_step stepped
  have sound := (sound_of_run reached).move moves
  have emptied : next.starts[call]? = some .started ∧ next.pool = [] := by
    cases moves with
    | take => exact ⟨started, rfl⟩
  obtain ⟨stays, empty⟩ := sound.emptied_of_run emptied.1 emptied.2 continued
  exact ⟨(sound.run continued).opening?_eq stays rfl, empty⟩

end Consumption

section Drain

variable {call : Nat} {request : ShutdownCall}

theorem StartsDraining.of_step (stepped : service.step false (.shutdown call) = some (next, said))
    (drains : next.StartsDraining call) : service.StartsDraining call := by
  obtain ⟨count, last, others, ran, draining⟩ := drains
  exact ⟨count + 1, last, said ++ others, run_cons.mpr ⟨next, said, others, stepped, ran, rfl⟩, draining⟩

theorem startsDraining_of_stopping (here : service.shutdowns[call]? = some request)
    (stopping : request.place = .stopping true) (done : service.acceptorDone) :
    service.StartsDraining call := by
  have stepped : service.step false (.shutdown call) =
      some ({ service with handle := .taken }.moveShutdown call .draining, []) :=
    step_shutdown here stopping (if_pos done) false
  have moved : ({ service with handle := .taken }.moveShutdown call .draining).shutdowns[call]? =
      some { request with place := .draining } := getElem?_moveShutdown here _
  refine .of_step stepped ⟨0, _, [], rfl, ?_⟩
  rw [shutdownPlace?, moved]
  rfl

theorem startsDraining_of_latched (here : service.shutdowns[call]? = some request)
    (latched : request.place = .latched true) (done : service.acceptorDone) :
    service.StartsDraining call := by
  have moved : ({ service with stop := true }.moveShutdown call (.stopping true)).shutdowns[call]? =
      some { request with place := .stopping true } := getElem?_moveShutdown here _
  have drains := startsDraining_of_stopping moved rfl done
  exact .of_step (step_shutdown here latched rfl false) drains

theorem startsDraining_of_called (here : service.shutdowns[call]? = some request)
    (called : request.place = .called) (running : service.phase = .running)
    (unlocked : service.stateLocked = false) (done : service.acceptorDone) : service.StartsDraining call := by
  have latches : service.stepShutdown call request.limit .called =
      some ({ service with phase := .shuttingDown }.moveShutdown call (.latched true), []) := by
    rw [stepShutdown, if_neg (by simp [unlocked]), if_neg (by simp [running]), running]
    rfl
  have stepped := step_shutdown here called latches false
  have moved : ({ service with phase := .shuttingDown }.moveShutdown call (.latched true)).shutdowns[call]? =
      some { request with place := .latched true } := getElem?_moveShutdown here _
  have drains := startsDraining_of_latched moved rfl done
  exact .of_step stepped drains

/-- A shutdown has nothing to wait for where the acceptor is marked as done. -/
theorem Sound.startsDraining (sound : service.Sound) (started : service.opening? = some .started)
    (done : service.acceptorDone) (here : service.shutdowns[call]? = some request)
    (awaits : request.place.Awaits service.phase) : service.StartsDraining call := by
  generalize place : request.place = point at awaits
  cases awaits with
  | called running =>
    have unlocked := sound.stateLocked_of_opening (by rw [started]; rfl)
    exact startsDraining_of_called here place running unlocked done
  | latched => exact startsDraining_of_latched here place done
  | stopping => exact startsDraining_of_stopping here place done

/-- However an acceptor ends, it is marked as done, unless it was told to abort before its first step. -/
theorem acceptorDone_of_isDone (ran : (opened limit).run actions = some (service, effects)) :
    WaitsOut actions → service.acceptor.isDone → service.acceptorDone := by
  refine history_induction (motive := fun actions service _ => WaitsOut actions → service.acceptor.isDone →
    service.acceptorDone) (fun _ => nofun) ?_ ran
  intro actions signalled action before after said effects reached _ moves earlier waitsOut done
  cases moves with
  | serve | begin | release | accept | skip | park | wake | fail => cases done
  | look =>
    change (if before.stop then Acceptor.leaving .finished else .polling).isDone at done
    split at done <;> cases done
  | mark | panicAcceptor | abortParked => rfl
  | unwind unwinding => exact earlier waitsOut.init (by rw [unwinding]; rfl)
  | abortSpawned told =>
    rw [aborting_of_waitsOut reached waitsOut.init] at told
    cases told
  | _ => exact earlier waitsOut.init done

end Drain

section Accepting

theorem not_fails_of_isOfConnection {error : AcceptError} (ofConnection : error.isOfConnection)
    (worker : Worker) (failure : ServerError) : ¬error.action.Fails worker failure := by
  rw [AcceptError.action, if_pos ofConnection]
  exact nofun

theorem fails_of_fatal {error : AcceptError} (fatal : error.isOfConnection = false) :
    error.action.Fails .acceptor (.serve error.message) := by
  rw [AcceptError.action, fatal]
  exact .serve error.message

/-- An acceptor that is not told to stop is as before after any errors that concern one connection only. -/
theorem run_connectionErrors (checking : service.acceptor = .checking) (unstopped : service.stop = false)
    (errors : List AcceptError) (ofConnections : ∀ error ∈ errors, error.isOfConnection) :
    service.run (errors.flatMap fun error => [(false, .advance), (false, error.action)]) =
      some (service, []) := by
  induction errors with
  | nil => rfl
  | cons error rest inductionHypothesis =>
    have ofConnection := ofConnections error (by simp)
    have looked : service.step false .advance = some ({ service with acceptor := .polling }, []) := by
      simp [step, act, stepAcceptor, checking, unstopped]
    have same : { service with acceptor := .checking } = service := by rw [← checking]
    have passed : step false { service with acceptor := .polling } error.action = some (service, []) := by
      simp [AcceptError.action, ofConnection, step, act, fromPolling, same]
    have continued := inductionHypothesis fun error member => ofConnections error (by simp [member])
    refine run_cons.mpr ⟨_, [], [], looked, ?_, rfl⟩
    exact run_cons.mpr ⟨_, [], [], passed, continued, rfl⟩

theorem step_fatal (polling : service.acceptor = .polling) {error : AcceptError}
    (fatal : error.isOfConnection = false) (signalled : Bool) :
    ∃ after, service.step signalled error.action = some (after, []) ∧
      after.outcome? .acceptor = some (.failed error.message) := by
  refine ⟨{ service with acceptor := .leaving (.failed error.message) }, ?_, rfl⟩
  simp [AcceptError.action, fatal, step, act, fromPolling, polling]

end Accepting

/-- What becomes of the endings of the workers, in a run in which no call that waits is given up. -/
structure ReportsOnce (limit : Duration) (actions : List (Bool × Action)) (service : Service) : Prop where
  /-- Once a call has begun after a start returned, exactly one call has the workers, and it has both. -/
  consumed : BegunAfterStart (opened limit) actions → ∃ holder call, service.waits[holder]? = some call ∧
    call.workers.Perm [.watcher, .acceptor] ∧
    ∀ (other : Nat) (wait : WaitCall), other ≠ holder → service.waits[other]? = some wait → wait.workers = []
  /-- A call returns only when each of its workers has ended and was joined. -/
  complete : ∀ call ∈ service.waits, call.place = .returned →
    call.workers = call.joined.map Prod.fst ∧
      ∀ worker ∈ call.workers, ∃ ending, service.ending? worker = some ending
  /-- It returns then, by steps of its own. -/
  finishes : ∀ (number : Nat) (call : WaitCall), service.waits[number]? = some call → call.place = .joining →
    (∀ worker ∈ call.pending, ∃ ending, service.ending? worker = some ending) → service.Finishes number
  /-- It returns an error just if one of its workers failed. -/
  reported : ∀ call ∈ service.waits, call.place = .returned →
    ((∃ error, call.result? = some (.error error)) ↔ ∃ worker ∈ call.workers, ∃ error, Failed actions worker error)
  /-- The error is that of the first worker joined that failed. -/
  first : ∀ call ∈ service.waits, call.place = .returned → ∀ error,
    (call.result? = some (.error error) ↔ FailedFirst actions (call.joined.map Prod.fst) error)
  /-- Every other call returns without an error. -/
  unharmed : ∀ call ∈ service.waits, call.place = .returned →
    (∀ worker ∈ call.workers, ∀ error, ¬Failed actions worker error) → call.result? = some (.ok ())
  /-- A worker ends regularly or fails. -/
  ended : ∀ worker ending, service.ending? worker = some ending →
    ending = .finished ∨ ∃ error, Failed actions worker error
  /-- Errors that concern one connection only are no failures, and the acceptor goes on after any of them. -/
  persists : ∀ errors : List AcceptError, (∀ error ∈ errors, error.isOfConnection) →
    (∀ error ∈ errors, ∀ worker failure, ¬error.action.Fails worker failure) ∧
    (service.acceptor = .checking → service.stop = false →
      service.run (errors.flatMap fun error => [(false, .advance), (false, error.action)]) = some (service, []))
  /-- Any other error ends it. -/
  fatal : ∀ error : AcceptError, error.isOfConnection = false →
    error.action.Fails .acceptor (.serve error.message) ∧
    (service.acceptor = .polling → ∀ signalled, ∃ after, service.step signalled error.action = some (after, []) ∧
      after.outcome? .acceptor = some (.failed error.message))
  /-- However the acceptor ends, it is marked as done, and no shutdown waits for it in vain. -/
  marked : service.acceptor.isDone → service.acceptorDone ∧ ∀ (call : Nat) (request : ShutdownCall),
    service.shutdowns[call]? = some request → request.place.Awaits service.phase → service.StartsDraining call

/-- The outcome of each worker is reported once, to the call that waits which took the workers. -/
theorem outcomes_reported_once (ran : (opened limit).run actions = some (service, effects))
    (waitsOut : WaitsOut actions) : ReportsOnce limit actions service := by
  have sound := sound_of_run ran
  have truthful := truthful_of_run ran
  have joined (call : WaitCall) (member : call ∈ service.waits) (returned : call.place = .returned) :
      call.workers = call.joined.map Prod.fst := by
    rw [WaitCall.workers, (truthful call member).joinedAll returned, List.nil_append]
  constructor
  case consumed =>
    intro begun
    obtain ⟨started, empty⟩ := taken_of_begunAfterStart ran begun
    cases custody_of_run ran waitsOut with
    | pooled full idle =>
      rw [spawned_of_opening started, empty] at full
      cases full
    | taken here _ both _ _ others => exact ⟨_, _, here, both, others⟩
  case complete =>
    intro call member returned
    refine ⟨joined call member returned, fun worker among => ?_⟩
    rw [joined call member returned] at among
    obtain ⟨⟨_, ending⟩, told, rfl⟩ := List.mem_map.mp among
    exact ⟨ending, (truthful call member).told _ _ told⟩
  case finishes =>
    exact fun number call => finishes_of_ended
  case reported =>
    intro call member returned
    rw [WaitCall.result?_of_returned returned, joined call member returned]
    have silent := (truthful call member).error?_eq_none_iff ran waitsOut
    constructor
    · rintro ⟨error, result⟩
      by_contra harmless
      push Not at harmless
      rw [silent.mpr harmless] at result
      cases result
    · rintro ⟨worker, among, error, failed⟩
      cases reported : call.error? with
      | none => exact absurd failed (silent.mp reported worker among error)
      | some error => exact ⟨error, rfl⟩
  case first =>
    intro call member returned error
    rw [WaitCall.result?_of_returned returned, ← (truthful call member).error?_eq_some_iff ran waitsOut]
    cases call.error? <;> simp
  case unharmed =>
    intro call member returned harmless
    rw [joined call member returned] at harmless
    rw [WaitCall.result?_of_returned returned,
      ((truthful call member).error?_eq_none_iff ran waitsOut).mpr harmless]
  case ended =>
    intro worker ending isEnded
    refine (finished_or_failed ran waitsOut worker ending (outcome?_of_ending? isEnded)).imp_right ?_
    rintro ⟨error, _, failed⟩
    exact ⟨error, failed⟩
  case persists =>
    intro errors ofConnections
    refine ⟨fun error member => not_fails_of_isOfConnection (ofConnections error member), ?_⟩
    exact fun checking unstopped => run_connectionErrors checking unstopped errors ofConnections
  case fatal =>
    exact fun error fatal => ⟨fails_of_fatal fatal, fun polling => step_fatal polling fatal⟩
  case marked =>
    intro done
    have marked := acceptorDone_of_isDone ran waitsOut done
    have started : service.opening? = some .started := by
      by_contra unstarted
      have absent : service.acceptor = .absent := sound.outline.acceptor_absent.mpr unstarted
      rw [absent] at done
      cases done
    exact ⟨marked, fun call request here awaits => sound.startsDraining started marked here awaits⟩

/-- A call waits before the service is started, and another comes when it was. -/
def startedBetweenWaits : List (Bool × Action) :=
  [.callWait, .take 0, .callStart, .start 0, .start 0, .start 0, .start 0, .start 0, .start 0, .callWait].map
    (false, ·)

/-- Both workers fail, and the call that has them joins the acceptor first. -/
def failedBothWorkers : List (Bool × Action) :=
  [.callWait, .take 2, .endWait 0, .endWait 2, .advance, .advance, .failAcceptor "too many open files",
    .advance, .panicWatcher, .advance, .join 1 .acceptor, .join 1 .watcher, .endWait 1].map (false, ·)

/-- Of three calls that wait, only the one that took the workers hears of their failures. -/
theorem outcomes_reported_once_thrice :
    ∃ service effects,
      (opened (.ofSeconds 30)).run (startedBetweenWaits ++ (false, .take 1) :: failedBothWorkers) =
        some (service, effects) ∧
      WaitsOut (startedBetweenWaits ++ (false, .take 1) :: failedBothWorkers) ∧
      BegunAfterStart (opened (.ofSeconds 30)) (startedBetweenWaits ++ (false, .take 1) :: failedBothWorkers) ∧
      service.waits.map WaitCall.result? =
        [some (.ok ()), some (.error (.serve "too many open files")), some (.ok ())] ∧
      ReportsOnce (.ofSeconds 30) (startedBetweenWaits ++ (false, .take 1) :: failedBothWorkers) service := by
  obtain ⟨⟨service, effects⟩, ran⟩ := Option.isSome_iff_exists.mp (show ((opened (.ofSeconds 30)).run
    (startedBetweenWaits ++ (false, .take 1) :: failedBothWorkers)).isSome by decide)
  have results : ((opened (.ofSeconds 30)).run (startedBetweenWaits ++ (false, .take 1) :: failedBothWorkers)).map
      (fun ended => ended.1.waits.map WaitCall.result?) =
        some [some (.ok ()), some (.error (.serve "too many open files")), some (.ok ())] := by decide
  rw [ran, Option.map_some, Option.some.injEq] at results
  have waitsOut : WaitsOut (startedBetweenWaits ++ (false, .take 1) :: failedBothWorkers) := by
    unfold WaitsOut
    decide
  obtain ⟨⟨before, said⟩, reached⟩ := Option.isSome_iff_exists.mp
    (show ((opened (.ofSeconds 30)).run startedBetweenWaits).isSome by decide)
  have started : ((opened (.ofSeconds 30)).run startedBetweenWaits).map
      (fun ended => ended.1.startResultOf? 0) = some (some (.ok ())) := by decide
  rw [reached, Option.map_some, Option.some.injEq] at started
  exact ⟨service, effects, ran, waitsOut, ⟨_, _, _, _, before, said, 0, rfl, reached, started⟩, results,
    outcomes_reported_once ran waitsOut⟩

end Service

end ServiceHost
