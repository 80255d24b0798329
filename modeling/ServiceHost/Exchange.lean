import ServiceHost.Router

/-!
Exchanges on a connection: the body of a request is read within one deadline, and the answer has to be
there within another. Both start when the head of the request is there. What happens exactly at a
deadline is in time, and a limit of zero means none.
-/

namespace ServiceHost

open Http Log Net

/-- When the body of a request is there, in milliseconds after its head. -/
inductive Arrival where
  | complete (time : Nat) (body : Bytes)
  /-- Reading the body fails for a reason. -/
  | broken (time : Nat) (reason : String)
  | never

/-- What the connection gets. -/
inductive Reply where
  | answered (time : Nat) (response : Response)
  /-- The connection ends with an error and without a response. -/
  | failed (time : Nat) (message : String)
  | pending

/-- An exchange: what the connection gets and what happened. -/
structure Exchange where
  reply : Reply
  events : List Event := []

/-- The instant at which a limit ends that starts with the exchange. -/
def Duration.deadline? (limit : Duration) : Option Nat :=
  if limit.isZero then none else some limit.timerMillis

/-- The context of a request that comes in now. -/
def Context.incoming (clock : Timestamp) (remote : Peer) : Context where
  receivedAt := some clock
  remote := some remote

namespace Exchange

/-- The entry of a body that could not be read. -/
def unreadEntry (remote : Peer) (reason : String) : Entry where
  level := .debug
  message := "failed to read request body"
  fields := [("remote_addr", .text remote.render), ("error", .text reason)]

/-- The entry of an answer that was not there in time. -/
def overdueEntry (remote : Peer) (limit : Duration) : Entry where
  level := .warn
  message := "write timeout elapsed, closing connection"
  fields := [("remote_addr", .text remote.render), ("timeout", .text limit.inspect)]

/-- The error with which a connection ends whose answer was not there in time. -/
def overdueError : String := "write timeout elapsed"

/-- The connection ends with an error at a millisecond, after some events. -/
def fail (scene : Scene) (remote : Peer) (limit : Duration) (time : Nat) (events : List Event) : Exchange where
  reply := .failed time overdueError
  events := events ++ scene.logged time (overdueEntry remote limit)

/-- What a course amounts to for the connection. Only a deadline around it cuts it. -/
def ofCourse (scene : Scene) (remote : Peer) (limit : Duration) (course : Course Response) : Exchange :=
  match course.outcome with
  | .returned response => ⟨.answered course.finish response, course.events⟩
  | _ => fail scene remote limit course.finish course.events

/-- Answers with a status at a millisecond, some entries before, unless the deadline comes first. -/
def answerAt (scene : Scene) (time : Nat) (context : Context) (entries : List Entry) (status : Status) :
    Course Response :=
  (scene.perform [.rest time] 0 context).andThen fun _ now context =>
    let answer := (Envelope.send scene.world.clock context status .status).process
    scene.run (answer.after (entries.map .log)) now context

/-- Dispatches a request at a millisecond, unless the deadline comes first. -/
def dispatchAt (router : Router) (scene : Scene) (time : Nat) (context : Context) (request : Request) :
    Course Response :=
  (scene.perform [.rest time] 0 context).andThen fun _ now context =>
    router.course scene now context request

/-- Waits for what never comes. -/
def starve (scene : Scene) (remote : Peer) (limit : Duration) : Exchange :=
  match scene.deadline with
  | some time => fail scene remote limit time []
  | none => ⟨.pending, []⟩

/-- Where the requests on a connection run: in the span of the server, and within a deadline for the
answer. -/
def scene (router : Router) (capture : Capture) (world : World) : Scene where
  capture
  world
  spans := router.config.options.span.toList
  deadline := router.config.options.timeouts.write.deadline?

/-- The exchange of a request whose head is there and whose body arrives later or not at all. -/
def serve (router : Router) (capture : Capture) (world : World) (remote : Peer) (head : Request)
    (arrival : Arrival) : Exchange :=
  let timeouts := router.config.options.timeouts
  let read := timeouts.read.deadline?
  let scene := scene router capture world
  let context := Context.incoming world.clock remote
  let ofCourse := ofCourse scene remote timeouts.write
  let late : Exchange :=
    match read with
    | some time => ofCourse (answerAt scene time context [] Status.requestTimeout)
    | none => starve scene remote timeouts.write
  match arrival with
  | .complete time body =>
    if read.all (time ≤ ·) then ofCourse (dispatchAt router scene time context { head with body }) else late
  | .broken time reason =>
    if read.all (time ≤ ·) then
      ofCourse (answerAt scene time context [unreadEntry remote reason] Status.badRequest)
    else late
  | .never => late

end Exchange

end ServiceHost
