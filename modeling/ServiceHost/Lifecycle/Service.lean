import ServiceHost.Lifecycle.Place
import ServiceHost.Log.Record

/-!
The state of a service: its phase, its socket, what it found its own signals to be, its workers, its
connections, and the calls that were made on it. What happens to a connection below its requests is left out:
its encryption, the limit for the head of a request, and the messages on the wire. A connection that fails
while its encryption is agreed on never comes to register.
-/

namespace ServiceHost

open Lifecycle

/-- A service with one listening socket. -/
structure Service where
  /-- The limit of a shutdown by the watcher. -/
  limit : Duration := .ofSeconds 30
  phase : Phase := .listening
  socket : Socket := .held
  handle : Handle := .absent
  /-- Was the stop signal found to be triggered? -/
  stop : Bool := false
  /-- Was the signal found to be triggered that closes the connections which are still open? -/
  forceClose : Bool := false
  /-- Is the acceptor marked as done? -/
  acceptorDone : Bool := false
  watcher : Watcher := .absent
  acceptor : Acceptor := .absent
  /-- The workers that no waiting call has taken. -/
  pool : List Worker := []
  /-- The workers that were told to abort. -/
  aborting : List Worker := []
  connections : List Connection := []
  starts : List StartPlace := []
  shutdowns : List ShutdownCall := []
  waits : List WaitCall := []
  deriving DecidableEq, Repr, Inhabited

namespace Service

/-- Does a call hold the state lock? -/
def stateLocked (service : Service) : Bool :=
  service.starts.any StartPlace.holdsState

/-- Does a call hold the lock of the pool? -/
def poolLocked (service : Service) : Bool :=
  service.starts.any StartPlace.holdsPool

/-- Is every registered connection over? -/
def isDrained (service : Service) : Bool :=
  !service.connections.any Connection.isOpen

/-- Is the address of the service in use by it? -/
def isBound (service : Service) : Bool :=
  service.socket != .released

/-- How a worker ended, if it did. -/
def ending? (service : Service) : Worker → Option Ending
  | .watcher =>
    match service.watcher with
    | .ended ending => some ending
    | _ => none
  | .acceptor =>
    match service.acceptor with
    | .ended ending => some ending
    | _ => none

/-- Moves a call that starts the service. -/
def moveStart (service : Service) (call : Nat) (place : StartPlace) : Service :=
  { service with starts := service.starts.set call place }

/-- Moves a call that shuts the service down. -/
def moveShutdown (service : Service) (call : Nat) (place : ShutdownPlace) : Service :=
  { service with shutdowns := service.shutdowns.modify call fun call => { call with place } }

/-- Replaces a call that waits. -/
def putWait (service : Service) (call : Nat) (wait : WaitCall) : Service :=
  { service with waits := service.waits.set call wait }

/-- Replaces a connection. -/
def putConnection (service : Service) (number : Nat) (connection : Connection) : Service :=
  { service with connections := service.connections.set number connection }

/-- The place of a call that shuts the service down. -/
def shutdownPlace? (service : Service) (call : Nat) : Option ShutdownPlace :=
  service.shutdowns[call]?.map ShutdownCall.place

/-- The result of the last call that starts the service. -/
def startResult? (service : Service) : Option (Except ServerError Unit) :=
  service.starts.getLast?.bind StartPlace.result?

/-- The result of a call that shuts the service down. -/
def shutdownResult? (service : Service) (call : Nat) : Option (Except ServerError Unit) :=
  service.shutdowns[call]?.bind ShutdownCall.result?

/-- The result of the last call that waits for the workers. -/
def waitResult? (service : Service) : Option (Except ServerError Unit) :=
  service.waits.getLast?.bind WaitCall.result?

end Service

end ServiceHost
