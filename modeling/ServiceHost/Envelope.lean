import ServiceHost.Context
import ServiceHost.Http.Message
import ServiceHost.Log.Record

/-!
The response envelope. Every answer that goes through it forbids caching, names the type of its payload
and is recorded exactly once, as an error from status 400 on and for debugging otherwise.
-/

namespace ServiceHost.Envelope

open Http Log

/-- The payload of an answer. -/
inductive Payload where
  | status
  | text (content : String)
  | json (content : Json)
  | xml (content : String)
  deriving Inhabited

/-- The text of a payload, empty where there is none. -/
def Payload.content : Payload → String
  | .status => ""
  | .text content => content
  | .json content => content.compact
  | .xml content => content

/-- The content type of a payload. -/
def Payload.contentType? : Payload → Option HeaderValue
  | .status => none
  | .text _ => some HeaderValue.plainText
  | .json _ => some HeaderValue.json
  | .xml _ => some HeaderValue.xml

/-- A response together with the entries that were made on the way to it. -/
structure Answer where
  entries : List Entry := []
  response : Response
  deriving Inhabited

/-- The headers that forbid caching. -/
def uncached : Headers :=
  ((Headers.empty.set HeaderName.cacheControl HeaderValue.noCache).set HeaderName.pragma
    HeaderValue.noCachePragma).set HeaderName.expires HeaderValue.expired

/-- The headers of an answer. -/
def headers (payload : Payload) : Headers :=
  match payload.contentType? with
  | none => uncached
  | some contentType => uncached.set HeaderName.contentType contentType

/-- The milliseconds between the arrival of a request and now, none if the arrival is not known. -/
def age (clock : Timestamp) (context : Context) : Nat :=
  clock.millisSince (context.receivedAt.getD clock)

/-- The severity with which an answer is recorded. -/
def severity (status : Status) : Level :=
  if 400 ≤ status.code then .error else .debug

/-- The entry of an answer. -/
def entry (clock : Timestamp) (context : Context) (status : Status) (payload : Payload) : Entry where
  level := severity status
  message := "response"
  fields :=
    [("response_code", .number status.code), ("response_message", .text (status.reason.getD "")),
      ("response_status", .text status.classify.label), ("response_time", .instant clock 9),
      ("response_duration", .elapsed (age clock context)), ("response_data", .text payload.content)]

/-- Answers a request with a status and a payload. -/
def send (clock : Timestamp) (context : Context) (status : Status) (payload : Payload) : Answer where
  entries := [entry clock context status payload]
  response := { status, headers := headers payload, body := Bytes.ofString payload.content }

/-- Answers with a JSON payload, or with a bare 500 if the payload could not be written. -/
def sendJson (clock : Timestamp) (context : Context) (status : Status)
    (written : Except String Json) : Answer :=
  match written with
  | .ok content => send clock context status (.json content)
  | .error reason =>
    let answer := send clock context Status.internalServerError .status
    { answer with entries :=
        ⟨.error, "failed to serialize JSON response payload", [("error", .text reason)]⟩ ::
          answer.entries }

@[simp] theorem send_status (clock : Timestamp) (context : Context) (status : Status)
    (payload : Payload) : (send clock context status payload).response.status = status := rfl

@[simp] theorem send_entries (clock : Timestamp) (context : Context) (status : Status)
    (payload : Payload) :
    (send clock context status payload).entries = [entry clock context status payload] := rfl

end ServiceHost.Envelope
