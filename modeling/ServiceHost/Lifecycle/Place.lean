import ServiceHost.ServerError

/-!
Places: how far the calls on a service and its two workers have come. Between two places lies one atomic
step.
-/

namespace ServiceHost.Lifecycle

/-- A worker of a started service: one waits for a reason to shut down, one accepts connections. -/
inductive Worker where
  | watcher
  | acceptor
  deriving DecidableEq, Repr

/-- The name of a worker in the log and in errors. -/
def Worker.name : Worker → String
  | .watcher => "shutdown watcher"
  | .acceptor => "serve loop"

/-- How a worker ended. -/
inductive Ending where
  | finished
  | failed (cause : String)
  | panicked
  | aborted
  deriving DecidableEq, Repr

/-- The error that the end of a worker amounts to. An aborted one counts as no failure. -/
def Ending.error? (worker : Worker) : Ending → Option ServerError
  | .finished => none
  | .failed cause => some (.serve cause)
  | .panicked => some (.taskPanicked worker.name)
  | .aborted => none

/-- Where the listening socket is: in the service, on its way to the acceptor, with the acceptor, or
released. -/
inductive Socket where
  | held
  | carried
  | serving
  | released
  deriving DecidableEq, Repr

/-- The signals that a service holds. -/
inductive Signal where
  /-- It asks the service to shut down, and others may hold it as well. -/
  | shared
  /-- It stops the acceptor and the watcher. -/
  | stop
  /-- It closes the connections that are still open. -/
  | forceClose
  deriving DecidableEq, Repr

/-- The handle through which open connections are asked to finish. Connections register with it as long
as it is armed. -/
inductive Handle where
  | absent
  | armed
  | taken
  deriving DecidableEq, Repr

/-- How far a call that starts a service has come. -/
inductive StartPlace where
  | called
  /-- It holds the state lock and carries the socket. -/
  | claimed
  /-- It has armed the handle. -/
  | armed
  /-- It has joined the wait group. -/
  | joined
  /-- The service runs, and the state lock is free again. -/
  | running
  /-- It holds the lock of the pool and has spawned the watcher. -/
  | watching
  | started
  /-- The service was in another phase than listening. -/
  | refused (phase : Phase)
  deriving DecidableEq, Repr

/-- Does a call at this place hold the state lock? -/
def StartPlace.holdsState : StartPlace → Bool
  | .claimed => true
  | .armed => true
  | .joined => true
  | _ => false

/-- Does a call at this place hold the lock of the pool? -/
def StartPlace.holdsPool : StartPlace → Bool
  | .watching => true
  | _ => false

/-- The result of a call that returned. -/
def StartPlace.result? : StartPlace → Option (Except ServerError Unit)
  | .started => some (.ok ())
  | .refused phase => some (.error (.invalidState "start" phase))
  | _ => none

/-- How far a call that shuts a service down has come. It remembers whether the service was started, and
later whether all connections were finished before the deadline. -/
inductive ShutdownPlace where
  | called
  /-- The service is shutting down, and this call is the one that does it. -/
  | latched (started : Bool)
  /-- The stop signal was triggered. The acceptor of a started service has to end first. -/
  | stopping (started : Bool)
  /-- It has taken the handle and waits for the registered connections. -/
  | draining
  /-- The deadline elapsed. -/
  | expired
  | settled (started drained : Bool)
  /-- The service is closed. -/
  | closed (started drained : Bool)
  /-- A started service has left the wait group. -/
  | left (drained : Bool)
  | returned (drained : Bool)
  /-- Another call came first. -/
  | repeated
  /-- The caller did not wait for the end of the call. -/
  | abandoned
  deriving DecidableEq, Repr

/-- Does a call at this place wait for something, so that it may be abandoned? -/
def ShutdownPlace.waits : ShutdownPlace → Bool
  | .stopping true => true
  | .draining => true
  | _ => false

/-- Is a call at this place over? -/
def ShutdownPlace.isOver : ShutdownPlace → Bool
  | .returned _ => true
  | .repeated => true
  | .abandoned => true
  | _ => false

/-- A call that shuts a service down within a limit of time, made by a caller or by the watcher. -/
structure ShutdownCall where
  limit : Duration
  byWatcher : Bool := false
  place : ShutdownPlace := .called
  deriving DecidableEq, Repr

/-- The result of a call that returned. -/
def ShutdownCall.result? (call : ShutdownCall) : Option (Except ServerError Unit) :=
  match call.place with
  | .returned true => some (.ok ())
  | .returned false => some (.error (.shutdown call.limit))
  | .repeated => some (.ok ())
  | _ => none

/-- How far a call that waits for the workers has come. -/
inductive WaitPlace where
  | called
  | joining
  | returned
  | abandoned
  deriving DecidableEq, Repr

/-- A call that waits for the workers: those it took and has yet to join, and those it joined, in order. -/
structure WaitCall where
  place : WaitPlace := .called
  pending : List Worker := []
  joined : List (Worker × Ending) := []
  deriving DecidableEq, Repr

/-- The error of the first worker joined that failed. -/
def WaitCall.error? (call : WaitCall) : Option ServerError :=
  call.joined.findSome? fun (worker, ending) => ending.error? worker

/-- The result of a call that returned. -/
def WaitCall.result? (call : WaitCall) : Option (Except ServerError Unit) :=
  match call.place, call.error? with
  | .returned, none => some (.ok ())
  | .returned, some error => some (.error error)
  | _, _ => none

/-- How far the watcher has come. It shuts the service down through a call of its own. -/
inductive Watcher where
  | absent
  | watching
  | shutting (call : Nat)
  | ended (ending : Ending)
  deriving DecidableEq, Repr

/-- How far the acceptor has come. An acceptor that leaves by itself releases the socket and is then
marked as done. One that panics or is aborted is marked first. -/
inductive Acceptor where
  | absent
  | spawned
  /-- About to look at the stop signal. -/
  | checking
  /-- The stop signal was not triggered; about to look for a connection. -/
  | polling
  /-- Nothing was there; sleeps until something happens. -/
  | parked
  | leaving (ending : Ending)
  | released (ending : Ending)
  | unwinding (ending : Ending)
  | ended (ending : Ending)
  deriving DecidableEq, Repr

/-- How far a connection has come, with the number of requests that were dispatched on it. -/
inductive Connection where
  | accepted
  | registered (requests : Nat)
  | finished (requests : Nat)
  /-- Its handshake failed, or no handle was armed when it came to register. -/
  | dropped
  /-- It was closed by force. -/
  | cut (requests : Nat)
  deriving DecidableEq, Repr

/-- Is a connection registered and not yet over? -/
def Connection.isOpen : Connection → Bool
  | .registered _ => true
  | _ => false

end ServiceHost.Lifecycle
