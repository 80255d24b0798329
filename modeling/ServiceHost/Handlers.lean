import ServiceHost.Pipeline.Stage
import ServiceHost.Text.Hexadecimal

/-!
Ready-made handlers: answers through the envelope or without it, an echo of the request, and handlers
that act before another one answers.
-/

namespace ServiceHost

open Http

/-- Octets as a JSON value: a string where they encode a text, and else an object with their hexadecimal
digits. -/
def Bytes.json (octets : Bytes) : Json :=
  match octets.toString? with
  | some text => .text text
  | none => .object [("hex", .text (String.ofList (Text.hexOctets octets)))]

namespace Handler

/-- Answers every call through the envelope. -/
def answer (status : Status) (payload : Envelope.Payload) : Handler := fun call =>
  (Envelope.send call.world.clock call.context status payload).process

def status (status : Status) : Handler := answer status .status

def text (status : Status) (content : String) : Handler := answer status (.text content)

def json (status : Status) (content : Json) : Handler := answer status (.json content)

def xml (status : Status) (content : String) : Handler := answer status (.xml content)

/-- Answers with a JSON payload that cannot be written. -/
def unwritable (status : Status) (reason : String) : Handler := fun call =>
  (Envelope.sendJson call.world.clock call.context status (.error reason)).process

/-- Answers with the path parameters. -/
def parameters : Handler := fun call =>
  json Status.ok call.context.parameters.json call

/-- A header field as a pair of its name and its octets. -/
def fieldJson (field : Field) : Json :=
  .array [.text field.1.text, field.2.octets.json]

/-- Answers with the request and its context. -/
def echo : Handler := fun call =>
  let request := call.request
  json Status.ok
    (.object
      [("body", request.body.json), ("context", call.context.json),
        ("headers", .array (request.headers.fields.map fieldJson)),
        ("method", .text request.method.name), ("path", .text request.target.path),
        ("query", (request.target.query.map .text).getD .null)])
    call

/-- Panics on every call. -/
def panicking (panic : Panic) : Handler := fun _ => Process.panicking panic

/-- Gives every call the same response. -/
def fixed (response : Response) : Handler := fun _ => Process.done response

/-- Performs some acts and then lets another handler answer. -/
def afterActs (acts : List Act) (handler : Handler) : Handler := fun call =>
  (handler call).after acts

/-- Answers with the exposition of the metrics, as they stand when the call arrives. -/
def metrics : Handler := fun call =>
  text Status.ok (call.world.registry.exposition call.world.buckets) call

end Handler

end ServiceHost
