import ServiceHost.Shutdown.WaitGroup

/-!
Moves of a wait group: everything that a step can do, with a case for each way in which it goes on.
-/

namespace ServiceHost.WaitGroup

/-- A move of a wait group: the step and the group after it. -/
inductive Move (group : WaitGroup) : Step → WaitGroup → Prop where
  | add (amount : UInt64) : Move group (.add amount) { group with count := group.count + amount }
  | idle (zero : group.count = 0) : Move group .lower group
  /-- The last one is taken away, and the waiters are to be notified. -/
  | last (one : group.count = 1) :
      Move group .lower { group with count := 0, announcing := group.announcing + 1 }
  | lower (positive : group.count ≠ 0) (notLast : group.count ≠ 1) :
      Move group .lower { group with count := group.count - 1 }
  | announce (due : group.announcing ≠ 0) :
      Move group .announce { group with
        announcing := group.announcing - 1
        waiters := group.waiters.map Waiter.notify }
  | arrive : Move group .arrive { group with waiters := group.waiters ++ [.arrived] }
  | enable {waiter : Nat} (here : group.waiters[waiter]? = some .arrived) :
      Move group (.enable waiter) (group.moveWaiter waiter (.enabled false))
  | finish {waiter : Nat} {notified : Bool} (here : group.waiters[waiter]? = some (.enabled notified))
      (zero : group.count = 0) : Move group (.check waiter) (group.moveWaiter waiter .finished)
  | check {waiter : Nat} {notified : Bool} (here : group.waiters[waiter]? = some (.enabled notified))
      (positive : group.count ≠ 0) :
      Move group (.check waiter) (group.moveWaiter waiter (.checked notified))
  | park {waiter : Nat} {notified : Bool} (here : group.waiters[waiter]? = some (.checked notified)) :
      Move group (.park waiter) (group.moveWaiter waiter (.parked notified))
  | wake {waiter : Nat} (here : group.waiters[waiter]? = some (.parked true)) :
      Move group (.wake waiter) (group.moveWaiter waiter .arrived)

/-- Every step is a move. -/
theorem move_of_step {before after : WaitGroup} {taken : Step} (stepped : before.step taken = some after) :
    Move before taken after := by
  cases taken with
  | add amount => cases stepped; exact .add amount
  | lower =>
    simp only [step] at stepped
    split at stepped
    · rename_i zero
      cases stepped
      exact .idle zero
    · rename_i positive
      split at stepped
      · rename_i one
        cases stepped
        exact .last one
      · rename_i notLast
        cases stepped
        exact .lower positive notLast
  | announce =>
    simp only [step] at stepped
    split at stepped
    · cases stepped
    · rename_i due
      cases stepped
      exact .announce due
  | arrive => cases stepped; exact .arrive
  | enable waiter =>
    simp only [step] at stepped
    split at stepped
    · rename_i here
      cases stepped
      exact .enable here
    · cases stepped
  | check waiter =>
    simp only [step] at stepped
    split at stepped
    · rename_i notified here
      cases stepped
      split
      · rename_i zero
        exact .finish here zero
      · rename_i positive
        exact .check here positive
    · cases stepped
  | park waiter =>
    simp only [step] at stepped
    split at stepped
    · rename_i notified here
      cases stepped
      exact .park here
    · cases stepped
  | wake waiter =>
    simp only [step] at stepped
    split at stepped
    · rename_i here
      cases stepped
      exact .wake here
    · cases stepped

/-- To take one away is always possible. -/
theorem exists_step_lower (group : WaitGroup) : ∃ lowered, group.step .lower = some lowered := by
  simp only [step]
  split
  · exact ⟨_, rfl⟩
  · split <;> exact ⟨_, rfl⟩

end ServiceHost.WaitGroup
