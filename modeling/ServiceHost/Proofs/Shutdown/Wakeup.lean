import ServiceHost.Proofs.Roster
import ServiceHost.Proofs.Shutdown.Tally

/-!
Wakeups: a call that waits is never left asleep. As long as it has not heard a notification, the counter
was above zero ever since the call looked at it, or the call that took it to zero has yet to notify.
-/

namespace ServiceHost

/-- Has a waiter seen the counter above zero and heard no notification since it registered? -/
def Waiter.isUnheard : Waiter → Bool
  | .checked notified => !notified
  | .parked notified => !notified
  | _ => false

theorem Waiter.isUnheard_notify (waiter : Waiter) : waiter.notify.isUnheard = false := by
  cases waiter <;> rfl

namespace WaitGroup

/-- The counter was above zero at every moment since a waiter last looked at it. -/
def NonzeroSinceCheck (steps : List Step) (waiter : Nat) : Prop :=
  ∃ first rest, steps = first ++ .check waiter :: rest ∧ .check waiter ∉ rest ∧
    ∀ middle, middle <+: rest → ∀ group,
      ({} : WaitGroup).run (first ++ .check waiter :: middle) = some group → group.count ≠ 0

/-- The counter was zero at a moment when a call had begun to wait and had not returned. -/
def ZeroWhileWaiting (steps : List Step) (waiter : Nat) : Prop :=
  ∃ first rest group place, steps = first ++ rest ∧ ({} : WaitGroup).run first = some group ∧
    group.count = 0 ∧ group.waiters[waiter]? = some place ∧ place ≠ .finished

/-- The counter is above zero at the end of a run in which it was so since the last check. -/
theorem NonzeroSinceCheck.count_ne_zero {steps : List Step} {waiter : Nat} {group : WaitGroup}
    (nonzero : NonzeroSinceCheck steps waiter) (ran : ({} : WaitGroup).run steps = some group) :
    group.count ≠ 0 := by
  obtain ⟨first, rest, rfl, _, above⟩ := nonzero
  exact above rest (List.prefix_refl rest) group ran

/-- A check that leaves the counter above zero is the last one. -/
theorem nonzeroSinceCheck_check {steps : List Step} {waiter : Nat} {after : WaitGroup}
    (ran : ({} : WaitGroup).run (steps ++ [.check waiter]) = some after) (above : after.count ≠ 0) :
    NonzeroSinceCheck (steps ++ [.check waiter]) waiter := by
  refine ⟨steps, [], rfl, List.not_mem_nil, ?_⟩
  intro middle within group reached
  rw [List.prefix_nil.mp within] at reached
  rw [← Option.some.inj (ran.symm.trans reached)]
  exact above

/-- Another step that leaves the counter above zero extends the time since the last check. -/
theorem NonzeroSinceCheck.snoc {steps : List Step} {waiter : Nat} {taken : Step} {after : WaitGroup}
    (nonzero : NonzeroSinceCheck steps waiter) (other : taken ≠ .check waiter)
    (ran : ({} : WaitGroup).run (steps ++ [taken]) = some after) (above : after.count ≠ 0) :
    NonzeroSinceCheck (steps ++ [taken]) waiter := by
  obtain ⟨first, rest, rfl, unchecked, earlier⟩ := nonzero
  refine ⟨first, rest ++ [taken], by simp, ?_, ?_⟩
  · simp only [List.mem_append, List.mem_singleton, not_or]
    exact ⟨unchecked, fun same => other same.symm⟩
  · intro middle within group reached
    rcases List.prefix_concat_iff.mp within with whole | part
    · rw [whole] at reached
      have same : some after = some group := by
        rw [← ran, ← reached]
        simp
      rw [← Option.some.inj same]
      exact above
    · exact earlier middle part group reached

/-- What a step means for the waiter of a number. -/
inductive WaiterMove (group : WaitGroup) (waiter : Nat) : Step → Waiter → Waiter → Prop where
  /-- The step is about something else. -/
  | rest {taken : Step} (place : Waiter) (other : taken ≠ .check waiter) (quiet : taken ≠ .announce) :
      WaiterMove group waiter taken place place
  | hear (place : Waiter) : WaiterMove group waiter .announce place place.notify
  | enable : WaiterMove group waiter (.enable waiter) .arrived (.enabled false)
  | finish (notified : Bool) (zero : group.count = 0) :
      WaiterMove group waiter (.check waiter) (.enabled notified) .finished
  | check (notified : Bool) (above : group.count ≠ 0) :
      WaiterMove group waiter (.check waiter) (.enabled notified) (.checked notified)
  | park (notified : Bool) : WaiterMove group waiter (.park waiter) (.checked notified) (.parked notified)
  | wake : WaiterMove group waiter (.wake waiter) (.parked true) .arrived

/-- A step that moves one waiter leaves the others where they are. -/
theorem waiterMove_moveWaiter {group : WaitGroup} {taken : Step} {waiter other : Nat}
    {old place found : Waiter}
    (present : group.waiters[other]? = some old) (quiet : taken ≠ .announce)
    (elsewhere : waiter ≠ other → taken ≠ .check waiter)
    (itself : waiter = other → WaiterMove group waiter taken old place)
    (moved : (group.moveWaiter other place).waiters[waiter]? = some found) :
    ∃ old, group.waiters[waiter]? = some old ∧ WaiterMove group waiter taken old found := by
  rcases (Roster.getElem?_set present).mp moved with ⟨same, placed⟩ | ⟨different, kept⟩
  · subst same
    rw [placed]
    exact ⟨old, present, itself rfl⟩
  · exact ⟨found, kept, .rest found (elsewhere different) quiet⟩

/-- A waiter was there before a step and moved with it, or has arrived with it. -/
theorem waiterMove_of_step {before after : WaitGroup} {taken : Step} {waiter : Nat} {place : Waiter}
    (stepped : before.step taken = some after) (found : after.waiters[waiter]? = some place) :
    place = .arrived ∨
      ∃ old, before.waiters[waiter]? = some old ∧ WaiterMove before waiter taken old place := by
  cases move_of_step stepped with
  | add | idle | last | lower => exact .inr ⟨place, found, .rest place (by simp) (by simp)⟩
  | announce due =>
    rw [List.getElem?_map] at found
    obtain ⟨old, present, notified⟩ := Option.map_eq_some_iff.mp found
    rw [← notified]
    exact .inr ⟨old, present, .hear old⟩
  | arrive =>
    rcases Roster.getElem?_snoc.mp found with old | ⟨_, fresh⟩
    · exact .inr ⟨place, old, .rest place (by simp) (by simp)⟩
    · exact .inl fresh
  | enable here =>
    refine .inr (waiterMove_moveWaiter here (by simp) (by simp) (fun same => ?_) found)
    subst same
    exact .enable
  | finish here zero =>
    refine .inr (waiterMove_moveWaiter here (by simp) (by simp [eq_comm]) (fun same => ?_) found)
    subst same
    exact .finish _ zero
  | check here positive =>
    refine .inr (waiterMove_moveWaiter here (by simp) (by simp [eq_comm]) (fun same => ?_) found)
    subst same
    exact .check _ positive
  | park here =>
    refine .inr (waiterMove_moveWaiter here (by simp) (by simp) (fun same => ?_) found)
    subst same
    exact .park _
  | wake here =>
    refine .inr (waiterMove_moveWaiter here (by simp) (by simp) (fun same => ?_) found)
    subst same
    exact .wake

/-- A waiter becomes unheard by a check of its own and stays so through steps of others. -/
theorem isUnheard_step {before after : WaitGroup} {taken : Step} {waiter : Nat} {place : Waiter}
    (stepped : before.step taken = some after) (found : after.waiters[waiter]? = some place)
    (unheard : place.isUnheard) :
    (taken = .check waiter ∧ before.count ≠ 0) ∨
      (taken ≠ .check waiter ∧ taken ≠ .announce ∧
        ∃ old, before.waiters[waiter]? = some old ∧ old.isUnheard) := by
  rcases waiterMove_of_step stepped found with rfl | ⟨old, present, moves⟩
  · simp [Waiter.isUnheard] at unheard
  · cases moves with
    | rest _ other quiet => exact .inr ⟨other, quiet, place, present, unheard⟩
    | hear _ => simp [Waiter.isUnheard_notify] at unheard
    | check notified above => exact .inl ⟨rfl, above⟩
    | park notified => exact .inr ⟨by simp, by simp, .checked notified, present, unheard⟩
    | enable | finish | wake => simp [Waiter.isUnheard] at unheard

/-- A call returns by a check that finds the counter at zero. -/
theorem finished_step {before after : WaitGroup} {taken : Step} {waiter : Nat}
    (stepped : before.step taken = some after) (found : after.waiters[waiter]? = some .finished) :
    before.waiters[waiter]? = some .finished ∨
      (before.count = 0 ∧ ∃ notified, before.waiters[waiter]? = some (.enabled notified)) := by
  rcases waiterMove_of_step stepped found with arrived | ⟨old, present, moves⟩
  · exact absurd arrived (by simp)
  · generalize same : Waiter.finished = place at moves
    cases moves with
    | rest _ other quiet => exact .inl (same ▸ present)
    | hear _ =>
      cases old with
      | finished => exact .inl present
      | _ => simp [Waiter.notify] at same
    | finish notified zero => exact .inr ⟨zero, notified, present⟩
    | enable | check | park | wake => exact absurd same (by simp)

/-- Of the steps other than a notification, only one that takes the counter to zero adds to the calls that
have yet to notify, and none takes from them. -/
theorem announcing_step {before after : WaitGroup} {taken : Step}
    (stepped : before.step taken = some after) (quiet : taken ≠ .announce) :
    before.announcing ≤ after.announcing ∧
      (taken = .lower → before.count ≠ 0 → after.count = 0 → after.announcing ≠ 0) := by
  cases move_of_step stepped with
  | announce due => exact absurd rfl quiet
  | idle zero => exact ⟨Nat.le_refl _, fun _ positive _ => absurd zero positive⟩
  | last one => exact ⟨Nat.le_succ _, fun _ _ _ => Nat.succ_ne_zero _⟩
  | lower positive notLast =>
    refine ⟨Nat.le_refl _, fun _ _ zero => absurd ?_ notLast⟩
    exact (UInt64.sub_eq_iff_eq_add.mp zero).trans (UInt64.zero_add 1)
  | add | arrive | enable | finish | check | park | wake => exact ⟨Nat.le_refl _, by simp⟩

/-- Only to take one away brings a total down to zero. -/
theorem eq_lower_of_tally_eq_zero {total : Nat} {taken : Step} (positive : total ≠ 0)
    (zero : taken.tally total = 0) : taken = .lower := by
  cases taken <;> simp_all [Step.tally]

/-- While a waiter is unheard, the counter was above zero since its last check or a notification is due. -/
theorem nonzero_or_announcing {steps : List Step} {group : WaitGroup}
    (ran : ({} : WaitGroup).run steps = some group) (fits : Fits steps) {waiter : Nat} {place : Waiter}
    (found : group.waiters[waiter]? = some place) (unheard : place.isUnheard) :
    NonzeroSinceCheck steps waiter ∨ group.announcing ≠ 0 := by
  induction steps using List.reverseRecOn generalizing group place with
  | nil =>
    rw [← Option.some.inj ran] at found
    simp at found
  | append_singleton steps taken inductionHypothesis =>
    obtain ⟨before, ranBefore, stepped⟩ := run_snoc.mp ran
    have countedBefore := toNat_count_of_run ranBefore fits.of_append
    have counted := toNat_count_of_run ran fits
    rw [tally_snoc, ← countedBefore] at counted
    rcases isUnheard_step stepped found unheard with ⟨rfl, above⟩ | ⟨other, quiet, old, present, wasUnheard⟩
    · refine .inl (nonzeroSinceCheck_check ran ?_)
      rwa [UInt64.toNat.inj counted]
    · have kept := announcing_step stepped quiet
      rcases inductionHypothesis ranBefore fits.of_append present wasUnheard with nonzero | due
      · have above := nonzero.count_ne_zero ranBefore
        by_cases zero : group.count = 0
        · rw [zero] at counted
          have lowered := eq_lower_of_tally_eq_zero (fun none => above (UInt64.toNat.inj none)) counted.symm
          exact .inr (kept.2 lowered above zero)
        · exact .inl (nonzero.snoc other ran zero)
      · exact .inr fun none => due (Nat.le_zero.mp (none ▸ kept.1))

theorem ZeroWhileWaiting.snoc {steps : List Step} {waiter : Nat} (waited : ZeroWhileWaiting steps waiter)
    (taken : Step) : ZeroWhileWaiting (steps ++ [taken]) waiter := by
  obtain ⟨first, rest, group, place, rfl, reached⟩ := waited
  exact ⟨first, rest ++ [taken], group, place, by simp, reached⟩

/-- A call that has returned has waited while the counter was zero. -/
theorem zeroWhileWaiting_of_finished {steps : List Step} {group : WaitGroup}
    (ran : ({} : WaitGroup).run steps = some group) {waiter : Nat}
    (found : group.waiters[waiter]? = some .finished) : ZeroWhileWaiting steps waiter := by
  induction steps using List.reverseRecOn generalizing group with
  | nil =>
    rw [← Option.some.inj ran] at found
    simp at found
  | append_singleton steps taken inductionHypothesis =>
    obtain ⟨before, ranBefore, stepped⟩ := run_snoc.mp ran
    rcases finished_step stepped found with earlier | ⟨zero, notified, present⟩
    · exact (inductionHypothesis ranBefore earlier).snoc taken
    · exact ⟨steps, [taken], before, .enabled notified, rfl, ranBefore, zero, present, by simp⟩

/-- No wakeup is lost: the counter is the total of the run, which is never below zero; a call that is parked
and was not notified has seen the counter above zero ever since it looked at it, unless the call that took
the counter to zero has yet to notify; and a call returns only if the counter was zero while it waited. -/
theorem parked_waiter_not_forgotten {steps : List Step} {group : WaitGroup}
    (ran : ({} : WaitGroup).run steps = some group) (fits : Fits steps) :
    group.count.toNat = tally steps ∧
      (∀ waiter, group.waiters[waiter]? = some (.parked false) →
        NonzeroSinceCheck steps waiter ∨ group.announcing ≠ 0) ∧
      ∀ waiter, group.waiters[waiter]? = some .finished → ZeroWhileWaiting steps waiter :=
  ⟨toNat_count_of_run ran fits, fun _ parked => nonzero_or_announcing ran fits parked rfl,
    fun _ finished => zeroWhileWaiting_of_finished ran finished⟩

/-- A counter that bounces: it is raised again between the step that takes it to zero and the notification,
so that the first call parks twice. The second call finds the counter at zero at once. -/
def bounce : List Step :=
  [.add 1, .arrive, .enable 0, .check 0, .park 0, .lower, .add 1, .announce, .wake 0, .enable 0, .check 0,
    .park 0, .arrive, .lower, .enable 1, .check 1]

theorem parked_waiter_not_forgotten_bounce :
    ∃ group, ({} : WaitGroup).run bounce = some group ∧ Fits bounce ∧ group.count.toNat = tally bounce ∧
      group.waiters = [.parked false, .finished] ∧
      (NonzeroSinceCheck bounce 0 ∨ group.announcing ≠ 0) ∧ ZeroWhileWaiting bounce 1 := by
  have ran : ({} : WaitGroup).run bounce = some ⟨0, 1, [.parked false, .finished]⟩ := by decide
  have fits : Fits bounce := by decide
  obtain ⟨counted, parked, finished⟩ := parked_waiter_not_forgotten ran fits
  exact ⟨_, ran, fits, counted, rfl, parked 0 rfl, finished 1 rfl⟩

end WaitGroup

end ServiceHost
