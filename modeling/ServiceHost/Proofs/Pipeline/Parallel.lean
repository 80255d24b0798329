import ServiceHost.Pipeline.Run

/-!
Parallel courses: two runs side by side that end alike at the same time and in the same context, while what
happens in them is only related. What a process does is the same in two scenes that tell the time alike, so that
nothing but its records may differ.
-/

namespace ServiceHost

open Http Log

/-- A relation of events that holds of what happens one after the other, and that lets every event other than a
record stand for itself. -/
structure Event.Joins (related : List Event → List Event → Prop) : Prop where
  nil : related [] []
  append {first second others more : List Event} (front : related first others) (back : related second more) :
    related (first ++ second) (others ++ more)
  unrecorded {event : Event} (unrecorded : ∀ record, event.what ≠ .record record) : related [event] [event]

/-- Two courses end alike, and what happens in them is related. -/
structure Course.Parallel {α : Type} (related : List Event → List Event → Prop) (one other : Course α) : Prop where
  outcome : other.outcome = one.outcome
  finish : other.finish = one.finish
  context : other.context = one.context
  events : related one.events other.events

/-- Two scenes tell the time alike, and what is logged in them is related. -/
structure Scene.Parallel (related : List Event → List Event → Prop) (scene other : Scene) : Prop where
  world : other.world = scene.world
  deadline : other.deadline = scene.deadline
  logged (now : Nat) (entry : Entry) : related (scene.logged now entry) (other.logged now entry)

variable {α β : Type} {related : List Event → List Event → Prop} {now : Nat} {context : Context}

namespace Course.Parallel

variable {one other : Course α} {events others : List Event}

theorem returned (joins : Event.Joins related) (value : α) :
    (Course.returned value now context).Parallel related (.returned value now context) :=
  ⟨rfl, rfl, rfl, joins.nil⟩

theorem precede (joins : Event.Joins related) (front : related events others)
    (parallel : one.Parallel related other) : (one.precede events).Parallel related (other.precede others) :=
  ⟨parallel.outcome, parallel.finish, parallel.context, joins.append front parallel.events⟩

theorem follow (joins : Event.Joins related) (parallel : one.Parallel related other)
    (back : related events others) : (one.follow events).Parallel related (other.follow others) :=
  ⟨parallel.outcome, parallel.finish, parallel.context, joins.append parallel.events back⟩

theorem andThen {next following : α → Nat → Context → Course β} (joins : Event.Joins related)
    (first : one.Parallel related other)
    (second : ∀ value now context, (next value now context).Parallel related (following value now context)) :
    (one.andThen next).Parallel related (other.andThen following) := by
  unfold Course.andThen
  rw [first.outcome, first.finish, first.context]
  cases one.outcome with
  | returned value => exact (second value one.finish one.context).precede joins first.events
  | panicked panic => exact ⟨rfl, rfl, rfl, first.events⟩
  | cut => exact ⟨rfl, rfl, rfl, first.events⟩

theorem answered {one other : Course Response} (parallel : one.Parallel related other) (started : Nat) :
    other.answered started = one.answered started := by
  rw [Course.answered, Course.answered, parallel.outcome, parallel.finish]

/-- A measuring stage measures two parallel courses alike. -/
theorem measured {one other : Course Response} (joins : Event.Joins related)
    (parallel : one.Parallel related other) (now : Nat) (endpoint : Metrics.Endpoint) :
    ((one.precede [⟨now, .began⟩]).follow [⟨one.finish, .ended endpoint (one.answered now)⟩]).Parallel related
      ((other.precede [⟨now, .began⟩]).follow [⟨other.finish, .ended endpoint (other.answered now)⟩]) := by
  rw [parallel.finish, parallel.answered]
  exact (parallel.precede joins (joins.unrecorded (by simp))).follow joins (joins.unrecorded (by simp))

end Course.Parallel

namespace Scene

/-- A process and what follows it: its acts, and then what becomes of its result. -/
theorem run_andThen (scene : Scene) (process : Process α) (next : α → Nat → Context → Course β) :
    (scene.run process now context).andThen next =
      (scene.perform process.acts now context).andThen fun _ now context =>
        match process.result with
        | .ok value => next value now context
        | .error panic => ⟨.panicked panic, now, context, []⟩ := by
  unfold run
  cases process.result with
  | ok value =>
    unfold Course.andThen
    cases (scene.perform process.acts now context).outcome <;> simp [Course.returned, Course.precede]
  | error panic =>
    unfold Course.andThen
    cases (scene.perform process.acts now context).outcome <;> simp [Course.precede]

namespace Parallel

variable {scene other : Scene}

theorem allows (parallel : scene.Parallel related other) (time : Nat) : other.allows time = scene.allows time := by
  rw [Scene.allows, Scene.allows, parallel.deadline]

theorem loggedAll (joins : Event.Joins related) (parallel : scene.Parallel related other) (entries : List Entry) :
    related (scene.loggedAll now entries) (other.loggedAll now entries) := by
  induction entries with
  | nil => exact joins.nil
  | cons entry entries inductionHypothesis => exact joins.append (parallel.logged now entry) inductionHypothesis

theorem measured (parallel : scene.Parallel related other) : scene.measured.Parallel related other.measured :=
  ⟨by rw [Scene.measured, Scene.measured, parallel.world], parallel.deadline, parallel.logged⟩

theorem perform (joins : Event.Joins related) (parallel : scene.Parallel related other) (acts : List Act) :
    (scene.perform acts now context).Parallel related (other.perform acts now context) := by
  induction acts generalizing now context with
  | nil => exact .returned joins ()
  | cons act acts inductionHypothesis =>
    cases act with
    | note label => exact inductionHypothesis.precede joins (joins.unrecorded (by simp))
    | log entry => exact inductionHypothesis.precede joins (parallel.logged now entry)
    | change change => exact inductionHypothesis
    | rest millis =>
      unfold Scene.perform
      rw [parallel.allows, parallel.deadline]
      split
      · exact inductionHypothesis
      · exact ⟨rfl, rfl, rfl, joins.nil⟩

theorem run (joins : Event.Joins related) (parallel : scene.Parallel related other) (process : Process α) :
    (scene.run process now context).Parallel related (other.run process now context) := by
  refine (parallel.perform joins process.acts).andThen joins fun _ now context => ?_
  cases process.result <;> exact ⟨rfl, rfl, rfl, joins.nil⟩

/-- A deadline cuts two parallel courses alike, and answers alike. -/
theorem expire (joins : Event.Joins related) (parallel : scene.Parallel related other) (args : RouteArgs)
    (limit : Duration) {inner following : Course Response} (courses : inner.Parallel related following) :
    (scene.expire args limit inner).Parallel related (other.expire args limit following) := by
  unfold Scene.expire
  rw [courses.outcome]
  cases inner.outcome with
  | returned response => exact courses
  | panicked panic => exact courses
  | cut =>
    rw [courses.finish, courses.context, parallel.world]
    exact ⟨rfl, rfl, rfl, joins.append courses.events (parallel.loggedAll joins _)⟩

end Parallel

end Scene

end ServiceHost
