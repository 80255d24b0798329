import ServiceHost.Lifecycle.Step

/-!
Errors in place of a connection: which of them concern that connection only, and what the acceptor does about
an error.
-/

namespace ServiceHost

/-- What went wrong on the listening socket. -/
inductive AcceptError.Kind where
  | connectionRefused
  | connectionAborted
  | connectionReset
  | other
  deriving DecidableEq, Repr

/-- An error that the listening socket reports in place of a connection. -/
structure AcceptError where
  kind : AcceptError.Kind
  message : String
  deriving DecidableEq, Repr

namespace AcceptError

/-- Does an error concern one connection only? -/
def isOfConnection (error : AcceptError) : Bool :=
  match error.kind with
  | .connectionRefused => true
  | .connectionAborted => true
  | .connectionReset => true
  | .other => false

/-- What the acceptor does about an error: it passes over a connection that failed and gives up otherwise. -/
def action (error : AcceptError) : Service.Action :=
  if error.isOfConnection then .skip else .failAcceptor error.message

end AcceptError

end ServiceHost
