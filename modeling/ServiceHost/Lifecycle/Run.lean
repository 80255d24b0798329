import ServiceHost.Lifecycle.Step

/-!
Runs of a service: any sequence of atomic steps, and the one that is taken where nothing else happens to
the service and every call is waited for.
-/

namespace ServiceHost.Service

open Lifecycle

/-- A service that was just opened. Its watcher shuts down within a limit. -/
def opened (limit : Duration) : Service := { limit := limit }

/-- The service after some steps in order, if all of them can be taken, and what they did outside of it.
The shared signal may change from step to step. -/
def run (service : Service) : List (Bool × Action) → Option (Service × List Effect)
  | [] => some (service, [])
  | (signalled, action) :: rest => do
    let (next, effects) ← service.step signalled action
    let (last, others) ← next.run rest
    return (last, effects ++ others)

/-- The services that steps lead to from one that was just opened. -/
inductive Reachable : Service → Prop where
  | opened (limit : Duration) : Reachable (opened limit)
  | step {before after : Service} {effects : List Effect} (signalled : Bool) (action : Action) :
      Reachable before → before.step signalled action = some (after, effects) → Reachable after

theorem Reachable.run {before : Service} (reachable : Reachable before) :
    ∀ {actions : List (Bool × Action)} {after : Service} {effects : List Effect},
      before.run actions = some (after, effects) → Reachable after := by
  intro actions
  induction actions generalizing before with
  | nil =>
    intro after effects ran
    simp only [Service.run, Option.some.injEq, Prod.mk.injEq] at ran
    exact ran.1 ▸ reachable
  | cons first rest inductionHypothesis =>
    intro after effects ran
    obtain ⟨signalled, action⟩ := first
    simp only [Service.run, Option.bind_eq_bind, Option.bind_eq_some_iff] at ran
    obtain ⟨⟨next, said⟩, taken, ⟨last, others⟩, ran, result⟩ := ran
    simp only [Option.pure_def, Option.some.injEq, Prod.mk.injEq] at result
    exact result.1 ▸ inductionHypothesis (.step signalled action reachable taken) ran

/-- The steps that may be due without anything from outside: those of calls, of workers and of new
connections. A sleeping acceptor is woken only by the stop signal. -/
def due (service : Service) : List Action :=
  (List.range service.starts.length).map .start ++
    [.hearStop, .hearSignal, .abortWatcher, .abortAcceptor, .endWatcher] ++
    (List.range service.shutdowns.length).map .shutdown ++
    [.advance, .park] ++ (if service.stop then [.wake] else []) ++
    (List.range service.connections.length).map .register ++
    (List.range service.waits.length).flatMap fun wait =>
      [.take wait, .join wait .watcher, .join wait .acceptor, .endWait wait]

/-- The first of the due steps that can be taken. -/
def next? (signalled : Bool) (service : Service) : Option (Service × List Effect) :=
  service.due.findSome? (service.step signalled)

end ServiceHost.Service
