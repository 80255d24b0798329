import ServiceHost.Log.Record

/-!
Wait groups: a shared counter of what is still running, and callers that wait until it is zero. Every
call is a sequence of atomic steps. To lower the counter and to notify the waiters are two of them; a
waiter registers for notifications, looks at the counter, and parks if it is not zero.
-/

namespace ServiceHost

/-- How far a call that waits has come. A registered waiter remembers whether it was notified since. -/
inductive Waiter where
  | arrived
  | enabled (notified : Bool)
  /-- It has seen the counter above zero and is about to park. -/
  | checked (notified : Bool)
  | parked (notified : Bool)
  | finished
  deriving DecidableEq, Repr, Inhabited

/-- A registered waiter hears a notification. -/
def Waiter.notify : Waiter → Waiter
  | .enabled _ => .enabled true
  | .checked _ => .checked true
  | .parked _ => .parked true
  | waiter => waiter

/-- A wait group: the counter, the number of calls that took it to zero and have yet to notify, and the
calls that wait, in the order in which they arrived. -/
structure WaitGroup where
  count : UInt64 := 0
  announcing : Nat := 0
  waiters : List Waiter := []
  deriving DecidableEq, Repr, Inhabited

namespace WaitGroup

/-- One atomic step of one of the calls on a wait group. -/
inductive Step where
  | add (amount : UInt64)
  /-- The first step of a call that takes one away. -/
  | lower
  /-- The second step of such a call, if it took the counter to zero. -/
  | announce
  | arrive
  | enable (waiter : Nat)
  | check (waiter : Nat)
  | park (waiter : Nat)
  /-- A parked waiter that was notified starts over. -/
  | wake (waiter : Nat)
  deriving DecidableEq, Repr

/-- Changes one waiter. -/
def moveWaiter (group : WaitGroup) (waiter : Nat) (place : Waiter) : WaitGroup :=
  { group with waiters := group.waiters.set waiter place }

/-- The group after a step, if the step can be taken. A counter of zero is not lowered, and adding goes
around at two to the sixty-fourth. -/
def step (group : WaitGroup) : Step → Option WaitGroup
  | .add amount => some { group with count := group.count + amount }
  | .lower =>
    if group.count = 0 then some group
    else if group.count = 1 then some { group with count := 0, announcing := group.announcing + 1 }
    else some { group with count := group.count - 1 }
  | .announce =>
    if group.announcing = 0 then none
    else
      some { group with
        announcing := group.announcing - 1
        waiters := group.waiters.map Waiter.notify }
  | .arrive => some { group with waiters := group.waiters ++ [.arrived] }
  | .enable waiter =>
    match group.waiters[waiter]? with
    | some .arrived => some (group.moveWaiter waiter (.enabled false))
    | _ => none
  | .check waiter =>
    match group.waiters[waiter]? with
    | some (.enabled notified) =>
      some (group.moveWaiter waiter (if group.count = 0 then .finished else .checked notified))
    | _ => none
  | .park waiter =>
    match group.waiters[waiter]? with
    | some (.checked notified) => some (group.moveWaiter waiter (.parked notified))
    | _ => none
  | .wake waiter =>
    match group.waiters[waiter]? with
    | some (.parked true) => some (group.moveWaiter waiter .arrived)
    | _ => none

/-- The group after some steps in order, if all of them can be taken. -/
def run (group : WaitGroup) : List Step → Option WaitGroup
  | [] => some group
  | first :: rest => (group.step first).bind fun next => next.run rest

/-- The groups that steps lead to from a fresh one. -/
inductive Reachable : WaitGroup → Prop where
  | fresh : Reachable {}
  | step {before after : WaitGroup} (taken : Step) :
      Reachable before → before.step taken = some after → Reachable after

/-- Takes as many of some steps as can be taken, in order. -/
def attempt (group : WaitGroup) (steps : List Step) : WaitGroup :=
  steps.foldl (fun group taken => (group.step taken).getD group) group

/-- The whole call that adds to the counter. -/
def add (group : WaitGroup) (amount : UInt64) : WaitGroup :=
  group.attempt [.add amount]

/-- The warning of a counter that was to go below zero. -/
def belowZero : Log.Entry := ⟨.warn, "wait group decremented below zero", []⟩

/-- The whole call that takes one away, with what it says. -/
def done (group : WaitGroup) : WaitGroup × List Log.Entry :=
  (group.attempt (if group.count = 1 then [.lower, .announce] else [.lower]),
    if group.count = 0 then [belowZero] else [])

/-- The whole first part of a call that waits, up to the place where it parks or ends. -/
def wait (group : WaitGroup) : WaitGroup :=
  let waiter := group.waiters.length
  group.attempt [.arrive, .enable waiter, .check waiter, .park waiter]

/-- Lets a waiter go on, which it does only if it was notified. -/
def poll (group : WaitGroup) (waiter : Nat) : WaitGroup :=
  match group.step (.wake waiter) with
  | none => group
  | some woken => woken.attempt [.enable waiter, .check waiter, .park waiter]

/-- Has a waiter seen the counter at zero? -/
def isFinished (group : WaitGroup) (waiter : Nat) : Bool :=
  group.waiters[waiter]? = some .finished

@[simp] theorem run_append (group : WaitGroup) (first second : List Step) :
    group.run (first ++ second) = (group.run first).bind fun next => next.run second := by
  induction first generalizing group with
  | nil => rfl
  | cons taken rest inductionHypothesis =>
    simp only [List.cons_append, run]
    cases group.step taken with
    | none => rfl
    | some next => exact inductionHypothesis next

end WaitGroup

end ServiceHost
