import ServiceHost.Proofs.Lifecycle.Attendance

/-!
Custody: who has the workers of a service. They are in the pool until a call that waits takes them, and it takes
both at once, as a start keeps the pool locked between the one and the other.
-/

namespace ServiceHost

open Lifecycle

/-- The workers that a call took: those it has yet to join and those it joined, in order. -/
def Lifecycle.WaitCall.workers (call : WaitCall) : List Worker := call.pending ++ call.joined.map Prod.fst

/-- Does a caller give up a call that waits for the workers? -/
def Service.Action.givesUpWait : Action → Bool
  | .abandonWait _ => true
  | _ => false

/-- The workers that a start at this place has spawned. -/
def Lifecycle.StartPlace.spawned : StartPlace → List Worker
  | .watching => [.watcher]
  | .started => [.watcher, .acceptor]
  | _ => []

namespace Service

/-- The workers that were spawned for a service. -/
def spawned (service : Service) : List Worker := (service.opening?.map StartPlace.spawned).getD []

/-- All workers are in the pool, or one call took both of them. Nobody else has any. -/
inductive Custody (service : Service) : Prop where
  | pooled (pool : service.pool = service.spawned) (idle : ∀ call ∈ service.waits, call.workers = [])
  | taken {holder : Nat} {call : WaitCall} (here : service.waits[holder]? = some call)
      (begun : call.place ≠ .called) (both : call.workers.Perm [.watcher, .acceptor])
      (started : service.opening? = some .started) (empty : service.pool = [])
      (others : ∀ (other : Nat) (wait : WaitCall), other ≠ holder → service.waits[other]? = some wait →
        wait.workers = [])

/-- No caller gives up a call that waits for the workers. -/
def WaitsOut (actions : List (Bool × Action)) : Prop := ∀ taken ∈ actions, taken.2.givesUpWait = false

variable {signalled : Bool} {action : Action} {limit : Duration} {service before after next last : Service}
  {effects said others : List Effect} {actions later : List (Bool × Action)} {number : Nat}

theorem WaitsOut.init {taken : Bool × Action} (waitsOut : WaitsOut (actions ++ [taken])) : WaitsOut actions :=
  fun other member => waitsOut other (List.mem_append_left _ member)

theorem WaitsOut.latest {taken : Bool × Action} (waitsOut : WaitsOut (actions ++ [taken])) :
    taken.2.givesUpWait = false :=
  waitsOut taken (by simp)

section Workers

variable {call : WaitCall} {worker : Worker} {ending : Ending}

theorem getElem?_putWait (here : service.waits[number]? = some call) (new : WaitCall) :
    (service.putWait number new).waits[number]? = some new :=
  (Roster.getElem?_set here).mpr (.inl ⟨rfl, rfl⟩)

/-- To join a worker is to have the same workers in another order. -/
theorem workers_join_perm (member : worker ∈ call.pending) :
    (WaitCall.workers { call with
      pending := call.pending.erase worker, joined := call.joined ++ [(worker, ending)] }).Perm call.workers := by
  rw [WaitCall.workers, WaitCall.workers, List.map_append, ← List.append_assoc]
  calc (call.pending.erase worker ++ call.joined.map Prod.fst ++ [worker]).Perm
        (worker :: (call.pending.erase worker ++ call.joined.map Prod.fst)) := List.perm_append_singleton _ _
    _ = worker :: call.pending.erase worker ++ call.joined.map Prod.fst := rfl
    List.Perm _ (call.pending ++ call.joined.map Prod.fst) :=
      (List.perm_cons_erase member).symm.append_right _

end Workers

section Custody

variable {place : StartPlace}

theorem spawned_of_opening (opening : service.opening? = some place) : service.spawned = place.spawned := by
  rw [spawned, opening]
  rfl

theorem spawned_of_unopened (unopened : service.opening? = none) : service.spawned = [] := by
  rw [spawned, unopened]
  rfl

theorem Custody.keep (custody : before.Custody) (starts : after.starts = before.starts)
    (pool : after.pool = before.pool) (waits : after.waits = before.waits) : after.Custody := by
  have opening : after.opening? = before.opening? := by rw [opening?, opening?, starts]
  cases custody with
  | pooled full idle =>
    refine .pooled ?_ (waits ▸ idle)
    rw [pool, full, spawned, spawned, opening]
  | taken here begun both started empty others =>
    exact .taken (waits ▸ here) begun both (opening ▸ started) (pool ▸ empty) (waits ▸ others)

/-- A start that does not open the service is called or refused. -/
theorem Custody.idleStart (custody : before.Custody) {starts : List StartPlace}
    (kept : starts.find? StartPlace.hasClaimed = before.opening?) : Custody { before with starts } := by
  cases custody with
  | pooled full idle =>
    refine .pooled ?_ idle
    rw [spawned, opening?, kept]
    exact full
  | taken here begun both started empty others => exact .taken here begun both (kept.trans started) empty others

/-- The start that opens the service moves on and puts the workers into the pool that it spawns. -/
theorem Custody.spawn {fresh : List Worker} (custody : before.Custody)
    (unstarted : before.opening? ≠ some .started) (waits : after.waits = before.waits)
    (pool : after.pool = before.pool ++ fresh) (spawned : after.spawned = before.spawned ++ fresh) :
    after.Custody := by
  cases custody with
  | pooled full idle => exact .pooled (by rw [pool, full, spawned]) (waits ▸ idle)
  | taken here begun both started => exact absurd started unstarted

/-- The start that opens the service moves from place to place. -/
theorem Custody.moveStart {old new : StartPlace} {call : Nat} (custody : before.Custody) (sound : before.Sound)
    (soundNext : (next.moveStart call new).Sound) (here : before.starts[call]? = some old)
    (claimed : old.hasClaimed) (claims : new.hasClaimed) (unstarted : old ≠ .started)
    (starts : next.starts = before.starts) (waits : next.waits = before.waits) {fresh : List Worker}
    (pool : next.pool = before.pool ++ fresh) (spawns : new.spawned = old.spawned ++ fresh) :
    (next.moveStart call new).Custody := by
  have opening := sound.opening?_eq here claimed
  have moved := soundNext.opening?_eq (getElem?_moveStart (starts ▸ here)) claims
  refine custody.spawn (by simp [opening, unstarted]) waits pool ?_
  rw [spawned_of_opening moved, spawned_of_opening opening, spawns]

/-- A call that waits moves on and keeps the workers that it has. -/
theorem Custody.putWait {old new : WaitCall} (custody : before.Custody)
    (here : before.waits[number]? = some old) (same : new.workers.Perm old.workers)
    (begun : new.place ≠ .called) (starts : next.starts = before.starts) (waits : next.waits = before.waits)
    (pool : next.pool = before.pool) : (next.putWait number new).Custody := by
  have opening : (next.putWait number new).opening? = before.opening? := by
    rw [opening?, Service.putWait, opening?, starts]
  have put : (next.putWait number new).waits = before.waits.set number new := by rw [Service.putWait, waits]
  cases custody with
  | pooled full idle =>
    refine .pooled ?_ fun call member => ?_
    · rw [spawned, opening]
      exact pool.trans full
    · rw [put] at member
      rcases List.mem_or_eq_of_mem_set member with known | rfl
      · exact idle call known
      · have none := idle old (List.mem_of_getElem? here)
        exact List.perm_nil.mp (none ▸ same)
  | @taken holder call held heldBegun both started empty others =>
    by_cases mine : holder = number
    · subst mine
      obtain rfl : old = call := Option.some.inj (here.symm.trans held)
      refine .taken (put ▸ (Roster.getElem?_set here).mpr (.inl ⟨rfl, rfl⟩)) begun (same.trans both)
        (opening ▸ started) (pool.trans empty) fun other wait apart found => ?_
      rcases (Roster.getElem?_set here).mp (put ▸ found) with ⟨same, _⟩ | ⟨_, kept⟩
      · exact absurd same apart
      · exact others other wait apart kept
    · refine .taken (put ▸ (Roster.getElem?_set here).mpr (.inr ⟨mine, held⟩)) heldBegun both
        (opening ▸ started) (pool.trans empty) fun other wait apart found => ?_
      rcases (Roster.getElem?_set here).mp (put ▸ found) with ⟨rfl, rfl⟩ | ⟨_, kept⟩
      · have none := others other old apart here
        exact List.perm_nil.mp (none ▸ same)
      · exact others other wait apart kept

/-- A call takes what is in the pool: no worker, or both. -/
theorem Custody.take {call : WaitCall} (custody : before.Custody) (here : before.waits[number]? = some call)
    (place : call.place = .called) (unlocked : before.poolLocked = false) :
    ({ before with pool := [] }.putWait number
      { call with place := .joining, pending := before.pool }).Custody := by
  have idle (empty : before.pool = []) (none : call.workers = []) :
      ({ before with pool := [] }.putWait number
        { call with place := .joining, pending := before.pool }).Custody := by
    have joined : call.joined.map Prod.fst = [] := (List.append_eq_nil_iff.mp none).2
    refine custody.putWait here ?_ (by simp) rfl rfl empty.symm
    rw [WaitCall.workers, none, empty, joined]
    exact .refl _
  cases custody with
  | pooled full rest =>
    have none := rest call (List.mem_of_getElem? here)
    cases opening : before.opening? with
    | none => exact idle (full.trans (spawned_of_unopened opening)) none
    | some start =>
      have spawned := full.trans (spawned_of_opening opening)
      cases start with
      | watching =>
        have locked := List.any_eq_false.mp unlocked _ (List.mem_of_find?_eq_some opening)
        exact absurd rfl locked
      | started =>
        have joined : call.joined.map Prod.fst = [] := (List.append_eq_nil_iff.mp none).2
        refine .taken ((Roster.getElem?_set here).mpr (.inl ⟨rfl, rfl⟩)) (by simp) ?_ opening rfl ?_
        · rw [WaitCall.workers, joined, List.append_nil]
          exact .of_eq spawned
        · intro other wait apart found
          rcases (Roster.getElem?_set here).mp found with ⟨same, _⟩ | ⟨_, kept⟩
          · exact absurd same apart
          · exact rest wait (List.mem_of_getElem? kept)
      | _ => exact idle spawned none
  | @taken holder held there begun both started empty others =>
    have apart : number ≠ holder := by
      rintro rfl
      obtain rfl := Option.some.inj (here.symm.trans there)
      exact begun place
    exact idle empty (others number call apart here)

/-- Each move keeps the workers together, unless a call that waits is given up. -/
theorem Custody.move (custody : before.Custody) (sound : before.Sound)
    (moves : Move signalled before action after effects) (kept : action.givesUpWait = false) :
    after.Custody := by
  have soundNext := sound.move moves
  cases moves with
  | callStart => exact custody.idleStart (Roster.find?_snoc rfl)
  | refuse here => exact custody.idleStart (Roster.find?_set_of_unmarked here rfl rfl)
  | claim here unlocked listening held =>
    have unopened : before.opening? = none := sound.outline.opening_eq_none held
    have moved := soundNext.opening?_eq (getElem?_moveStart here) rfl
    refine custody.spawn (by simp [unopened]) rfl (List.append_nil _).symm ?_
    rw [spawned_of_opening moved, spawned_of_unopened unopened]
    rfl
  | arm here | join here | launch here =>
    exact custody.moveStart sound soundNext here rfl rfl nofun rfl rfl (List.append_nil _).symm rfl
  | watch here | serve here =>
    exact custody.moveStart sound soundNext here rfl rfl nofun rfl rfl rfl rfl
  | callWait =>
    cases custody with
    | pooled full idle =>
      refine .pooled full fun call member => ?_
      rcases List.mem_append.mp member with known | fresh
      · exact idle call known
      · rw [List.mem_singleton.mp fresh]
        rfl
    | taken here begun both started empty others =>
      refine .taken (Roster.getElem?_snoc.mpr (.inl here)) begun both started empty fun other wait apart found => ?_
      rcases Roster.getElem?_snoc.mp found with known | ⟨_, rfl⟩
      · exact others other wait apart known
      · rfl
  | take here place unlocked => exact custody.take here place unlocked
  | joinWorker here ended place member =>
    exact custody.putWait here (workers_join_perm member) (by simp [place]) rfl rfl rfl
  | endWait here => exact custody.putWait here (.refl _) (by simp) rfl rfl rfl
  | abandonWait => cases kept
  | _ => exact custody.keep rfl rfl rfl

theorem custody_of_run (ran : (opened limit).run actions = some (service, effects)) :
    WaitsOut actions → service.Custody := by
  refine history_induction (motive := fun actions service _ => WaitsOut actions → service.Custody) ?_ ?_ ran
  · exact fun _ => .pooled rfl (by simp [opened])
  · exact fun _ sound moves earlier waitsOut => (earlier waitsOut.init).move sound moves waitsOut.latest

end Custody

end Service

end ServiceHost
