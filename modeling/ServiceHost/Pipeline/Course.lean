import ServiceHost.Pipeline.Stage

/-!
Courses: how a process runs in virtual time. Resting advances the clock exactly and nothing else takes
time. A rest that would go on beyond the deadline is cut there; one that ends exactly at the deadline is
in time.
-/

namespace ServiceHost

open Http Log

/-- Something that can be observed of a request. -/
inductive Happening where
  | note (label : String)
  | record (record : Record)
  /-- A pass through a measuring stage began. -/
  | began
  /-- A pass ended: with the status of its answer and the time it took, or without any answer. -/
  | ended (endpoint : Metrics.Endpoint) (answered : Option (Status × Duration))

/-- Something that happened at a millisecond. -/
structure Event where
  time : Nat
  what : Happening

/-- How a course ended. -/
inductive Outcome (α : Type) where
  | returned (value : α)
  | panicked (panic : Panic)
  /-- The deadline elapsed. -/
  | cut

/-- A process that was run: its outcome, when it ended, the context as it left it, and what happened, in
order. -/
structure Course (α : Type) where
  outcome : Outcome α
  finish : Nat
  context : Context
  events : List Event := []

namespace Course

/-- The course that has just returned. -/
def returned (value : α) (now : Nat) (context : Context) : Course α :=
  ⟨.returned value, now, context, []⟩

/-- The course with some events in front of it. -/
def precede (events : List Event) (course : Course α) : Course α :=
  { course with events := events ++ course.events }

/-- The course with some events behind it. -/
def follow (course : Course α) (events : List Event) : Course α :=
  { course with events := course.events ++ events }

/-- A course and, where it returned, another one that starts where it ended. -/
def andThen (first : Course α) (next : α → Nat → Context → Course β) : Course β :=
  match first.outcome with
  | .returned value => (next value first.finish first.context).precede first.events
  | .panicked panic => ⟨.panicked panic, first.finish, first.context, first.events⟩
  | .cut => ⟨.cut, first.finish, first.context, first.events⟩

/-- The course with another value, where it returned. -/
def map (change : α → β) (course : Course α) : Course β :=
  course.andThen fun value now context => returned (change value) now context

@[simp] theorem events_precede (events : List Event) (course : Course α) :
    (course.precede events).events = events ++ course.events := rfl

@[simp] theorem returned_andThen (value : α) (now : Nat) (context : Context)
    (next : α → Nat → Context → Course β) :
    (returned value now context).andThen next = next value now context := by
  simp [returned, andThen, precede]

end Course

/-- Where a process runs: in which surroundings and open spans, under which capture of the log, and
before which millisecond it must end. -/
structure Scene where
  capture : Capture
  world : World
  spans : List Span := []
  deadline : Option Nat := none

namespace Scene

/-- Is the millisecond before the deadline or exactly at it? -/
def allows (scene : Scene) (time : Nat) : Bool :=
  scene.deadline.all (time ≤ ·)

/-- The event of an entry, if it is kept. -/
def logged (scene : Scene) (now : Nat) (entry : Entry) : List Event :=
  (scene.capture.record? scene.spans entry).toList.map fun record => ⟨now, .record record⟩

/-- The events of some entries at one millisecond. -/
def loggedAll (scene : Scene) (now : Nat) (entries : List Entry) : List Event :=
  entries.flatMap (scene.logged now)

/-- Performs acts from a millisecond on. -/
def perform (scene : Scene) : List Act → Nat → Context → Course Unit
  | [], now, context => Course.returned () now context
  | .note label :: acts, now, context =>
    (scene.perform acts now context).precede [⟨now, .note label⟩]
  | .log entry :: acts, now, context =>
    (scene.perform acts now context).precede (scene.logged now entry)
  | .change change :: acts, now, context => scene.perform acts now (change context)
  | .rest millis :: acts, now, context =>
    if scene.allows (now + millis) then scene.perform acts (now + millis) context
    else ⟨.cut, scene.deadline.getD now, context, []⟩

/-- Runs a process from a millisecond on. -/
def run (scene : Scene) (process : Process α) (now : Nat) (context : Context) : Course α :=
  (scene.perform process.acts now context).andThen fun _ now context =>
    match process.result with
    | .ok value => Course.returned value now context
    | .error panic => ⟨.panicked panic, now, context, []⟩

end Scene

end ServiceHost
