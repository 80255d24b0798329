import ServiceHost.Http.Headers
import ServiceHost.Http.Method
import ServiceHost.Http.Status
import ServiceHost.Http.Target

/-!
Requests whose body was read in full, and responses.
-/

namespace ServiceHost.Http

/-- The protocol version of a request. -/
inductive Version where
  | http09
  | http10
  | http11
  | http2
  | http3
  deriving DecidableEq, Repr, Inhabited

/-- The version as a request line names it. -/
def Version.render : Version → String
  | .http09 => "HTTP/0.9"
  | .http10 => "HTTP/1.0"
  | .http11 => "HTTP/1.1"
  | .http2 => "HTTP/2.0"
  | .http3 => "HTTP/3.0"

/-- A request. -/
structure Request where
  method : Method := Method.get
  target : Target
  version : Version := .http11
  headers : Headers := Headers.empty
  body : Bytes := []
  deriving Inhabited

/-- The first value of a header, if it reads as text. -/
def Request.headerText? (request : Request) (name : HeaderName) : Option String :=
  (request.headers.get? name).bind HeaderValue.toString?

/-- Gives a header of the request this value and no other. -/
def Request.setHeader (request : Request) (name : HeaderName) (value : HeaderValue) : Request :=
  { request with headers := request.headers.set name value }

/-- A response. It carries a mark if a deadline produced it in place of the answer that was due. -/
structure Response where
  status : Status := Status.ok
  headers : Headers := Headers.empty
  body : Bytes := []
  timedOut : Bool := false
  deriving Inhabited, DecidableEq

/-- Gives a header of the response this value and no other. -/
def Response.setHeader (response : Response) (name : HeaderName) (value : HeaderValue) : Response :=
  { response with headers := response.headers.set name value }

end ServiceHost.Http
