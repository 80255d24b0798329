import ServiceHost.Process
import ServiceHost.Text.Blank

/-!
Lookup of the address under which the host is seen from outside. A provider may be asked for it; one of
them asks an echo service, which answers with the bare address.
-/

namespace ServiceHost

/-- Why a lookup failed. -/
inductive LookupError where
  | transport (reason : String)
  | status (code : Nat)
  | invalidPayload (reason : String)
  deriving DecidableEq, Repr

/-- The name of the kind of a failed lookup. -/
def LookupError.kind : LookupError → String
  | .transport _ => "Transport"
  | .status _ => "Status"
  | .invalidPayload _ => "InvalidPayload"

/-- The wording of a failed lookup. -/
def LookupError.message : LookupError → String
  | .transport reason => "transport error: " ++ reason
  | .status code => "unexpected upstream status: " ++ toString code
  | .invalidPayload reason => "invalid upstream payload: " ++ reason

namespace PublicIp

/-- A provider of the public address. -/
abbrev Provider := Process (Except LookupError String)

/-- The provider that gives the same result every time. -/
def Provider.fixed (result : Except LookupError String) : Provider := Process.done result

/-- How an exchange with an echo service ended. -/
inductive Echo where
  | failed (reason : String)
  | answered (status : Http.Status) (body : Bytes)

/-- The address in an echo: the body without the blanks at its ends, if the status is one of success
and something is left. -/
def Echo.address (echo : Echo) : Except LookupError String :=
  match echo with
  | .failed reason => .error (.transport reason)
  | .answered status body =>
    if !status.isSuccessful then .error (.status status.code)
    else
      let text := Text.strip body.toStringLenient
      if text.isEmpty then .error (.invalidPayload "empty body") else .ok text

end PublicIp

end ServiceHost
