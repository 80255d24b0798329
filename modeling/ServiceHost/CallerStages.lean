import ServiceHost.Pipeline.Stage

/-!
Ready-made stages for callers. All of them but the first two let the rest of the chain run.
-/

namespace ServiceHost.CallerStage

open Http

/-- What a stage does after the rest of the chain when it does nothing. -/
def unchanged : Context → Response → Process Response := fun _ response => Process.done response

/-- The stage that performs some acts and then lets the rest run. -/
def acting (name : String) (acts : Visit → List Act)
    (after : Context → Response → Process Response) : CallerStage where
  name
  enter visit := (Process.done (.proceed visit.request after)).after (acts visit)

/-- Answers with a status and never lets the rest run. -/
def deny (name : String) (status : Status) : CallerStage where
  name
  enter visit :=
    let answer := Envelope.send visit.world.clock visit.context status .status
    ⟨answer.entries.map .log, .ok (.answer answer.response)⟩

/-- Panics before the rest of the chain. -/
def panicBefore (name : String) (panic : Panic) : CallerStage where
  name
  enter _ := Process.panicking panic

/-- Panics after the rest of the chain. -/
def panicAfter (name : String) (panic : Panic) : CallerStage :=
  acting name (fun _ => []) fun _ _ => Process.panicking panic

/-- Notes when a request passes and with which status it comes back. -/
def recorder (name : String) : CallerStage :=
  acting name (fun _ => [.note (name ++ ":before")]) fun _ response =>
    (Process.done response).after [.note (name ++ ":after:" ++ toString response.status.code)]

/-- Gives the context a parameter. -/
def parameter (name key value : String) : CallerStage :=
  acting name (fun _ => [.change (·.withParameter key value)]) unchanged

/-- Gives the context a trace id. -/
def traceId (name value : String) : CallerStage :=
  acting name (fun _ => [.change (·.withTraceId value)]) unchanged

/-- Sets a header of the response. -/
def responseHeader (name : String) (key : HeaderName) (value : HeaderValue) : CallerStage :=
  acting name (fun _ => []) fun _ response => Process.done (response.setHeader key value)

/-- Sets a header of the request. -/
def requestHeader (name : String) (key : HeaderName) (value : HeaderValue) : CallerStage where
  name
  enter visit := Process.done (.proceed (visit.request.setHeader key value) unchanged)

/-- Rests before and after the rest of the chain. -/
def resting (name : String) (before after : Nat) : CallerStage :=
  acting name (fun _ => [.pause before]) fun _ response =>
    (Process.done response).after [.pause after]

/-- Notes what it knows of the route, with a dump redacted. -/
def routeNote (name dump : String) : CallerStage :=
  acting name
    (fun visit =>
      let args := visit.args
      [.note (args.method.name ++ " " ++ args.path ++ " [" ++ args.description ++ "] " ++
        args.traceHeader.text ++ " " ++ args.redactor dump)])
    unchanged

/-- Notes what follows it. -/
def followingNote (name : String) : CallerStage :=
  acting name (fun visit => [.note visit.inspectFollowing]) unchanged

/-- Notes the context as the rest of the chain left it. -/
def contextNote (name : String) : CallerStage :=
  acting name (fun _ => []) fun context response =>
    (Process.done response).after [.note context.json.compact]

/-- Does nothing. -/
def passing (name : String) : CallerStage :=
  acting name (fun _ => []) unchanged

end ServiceHost.CallerStage
