import ServiceHost.Router

/-!
Delays: a request that comes some milliseconds later runs the same way, all of it that much later. No stage sees what
time it is, only how long something took, so that a run may be told from its own start on.
-/

namespace ServiceHost

open Http Log

/-- The event some milliseconds later. -/
def Event.delay (event : Event) (millis : Nat) : Event :=
  { event with time := event.time + millis }

/-- The course some milliseconds later. -/
def Course.delay {α : Type} (course : Course α) (millis : Nat) : Course α :=
  { course with finish := course.finish + millis, events := course.events.map (·.delay millis) }

/-- The scene with its deadline some milliseconds later. -/
def Scene.delay (scene : Scene) (millis : Nat) : Scene :=
  { scene with deadline := scene.deadline.map (· + millis) }

variable {α β : Type} {now millis : Nat} {context : Context} {scene : Scene}

namespace Course

variable {course : Course α} {events : List Event}

@[simp] theorem outcome_delay : (course.delay millis).outcome = course.outcome := rfl

@[simp] theorem finish_delay : (course.delay millis).finish = course.finish + millis := rfl

theorem returned_delay (value : α) (now : Nat) (context : Context) :
    (returned value now context).delay millis = returned value (now + millis) context := rfl

theorem delay_precede : (course.precede events).delay millis =
    (course.delay millis).precede (events.map (·.delay millis)) := by
  simp [delay, precede]

theorem delay_follow : (course.follow events).delay millis =
    (course.delay millis).follow (events.map (·.delay millis)) := by
  simp [delay, follow]

/-- A delayed course and then another one that is delayed as well. -/
theorem delay_andThen {next later : α → Nat → Context → Course β}
    (second : ∀ value now context, later value (now + millis) context = (next value now context).delay millis) :
    (course.delay millis).andThen later = (course.andThen next).delay millis := by
  unfold andThen
  cases outcome : course.outcome with
  | returned value =>
    simp only [outcome_delay, outcome, delay_precede]
    exact congrArg (precede _) (second value course.finish course.context)
  | panicked panic | cut => simp only [outcome, delay]

/-- A measured pass takes as long as without the delay. -/
theorem answered_delay {course : Course Response} {started : Nat} :
    (course.delay millis).answered (started + millis) = course.answered started := by
  rw [answered, answered, outcome_delay, finish_delay, Nat.add_sub_add_right]

end Course

namespace Scene

theorem delay_of_endless (endless : scene.deadline = none) : scene.delay millis = scene := by
  cases scene
  cases endless
  rfl

@[simp] theorem allows_delay {time : Nat} : (scene.delay millis).allows (time + millis) = scene.allows time := by
  unfold allows delay
  cases scene.deadline <;> simp

theorem logged_delay {entry : Entry} :
    (scene.delay millis).logged (now + millis) entry = (scene.logged now entry).map (·.delay millis) := by
  simp [logged, delay, Event.delay]

theorem loggedAll_delay {entries : List Entry} :
    (scene.delay millis).loggedAll (now + millis) entries = (scene.loggedAll now entries).map (·.delay millis) := by
  rw [loggedAll, loggedAll, List.map_flatMap]
  exact congrArg (List.flatMap · entries) (funext fun _ => logged_delay)

theorem perform_delay (acts : List Act) :
    (scene.delay millis).perform acts (now + millis) context = (scene.perform acts now context).delay millis := by
  induction acts generalizing now context with
  | nil => rfl
  | cons act acts inductionHypothesis =>
    cases act with
    | note label =>
      rw [perform, perform, inductionHypothesis, Course.delay_precede]
      rfl
    | log entry => rw [perform, perform, inductionHypothesis, Course.delay_precede, logged_delay]
    | change change => exact inductionHypothesis
    | rest length =>
      rw [perform, perform, Nat.add_right_comm, allows_delay, inductionHypothesis]
      split
      · rfl
      · unfold delay
        cases scene.deadline <;> rfl

theorem run_delay (process : Process α) :
    (scene.delay millis).run process (now + millis) context = (scene.run process now context).delay millis := by
  unfold run
  rw [perform_delay]
  refine Course.delay_andThen fun _ now context => ?_
  cases process.result <;> rfl

theorem within_delay {own : Nat} : (scene.delay millis).within (own + millis) = (scene.within own).delay millis := by
  unfold within
  rw [allows_delay]
  split <;> rfl

/-- A deadline that elapses later answers later. -/
theorem expire_delay {args : RouteArgs} {limit : Duration} {inner : Course Response} :
    (scene.delay millis).expire args limit (inner.delay millis) = (scene.expire args limit inner).delay millis := by
  unfold expire
  cases outcome : inner.outcome with
  | returned response | panicked panic => simp only [Course.outcome_delay, outcome]
  | cut =>
    simp only [Course.outcome_delay, outcome, Course.finish_delay, loggedAll_delay]
    simp [Course.delay, delay]

end Scene

/-- A chain runs alike some milliseconds later. -/
theorem runChain_delay (args : RouteArgs) (handler : Handler) (stages : List Stage) (request : Request) :
    runChain args handler stages (scene.delay millis) (now + millis) context request =
      (runChain args handler stages scene now context request).delay millis := by
  induction stages generalizing scene now context request with
  | nil =>
    rw [runChain, runChain, Scene.run_delay]
    rfl
  | cons stage rest inductionHypothesis =>
    cases stage with
    | caller stage =>
      rw [runChain, runChain, Scene.run_delay]
      refine Course.delay_andThen fun verdict now context => ?_
      cases verdict with
      | answer response => rfl
      | proceed request after =>
        simp only [inductionHypothesis]
        exact Course.delay_andThen fun response now context => Scene.run_delay _
    | logging =>
      rw [runChain, runChain]
      refine (congrArg (Course.andThen · _) (@inductionHypothesis now _ { scene with spans := _ } _)).trans ?_
      refine Course.delay_andThen fun response finish context => ?_
      rw [Course.delay_precede, Course.returned_delay, Nat.add_sub_add_right, ← Scene.logged_delay]
      rfl
    | timeout limit =>
      rw [runChain, runChain]
      simp only [Nat.add_right_comm now millis, Scene.allows_delay, Scene.within_delay, inductionHypothesis,
        Scene.expire_delay]
      split <;> rfl
    | instrument =>
      have measured : (scene.delay millis).measured = scene.measured.delay millis := rfl
      rw [runChain, runChain, measured]
      simp only [inductionHypothesis, Course.answered_delay, Course.delay_follow, Course.delay_precede]
      rfl

namespace Router

variable {router : Router} {request : Request}

theorem recover_delay {args : RouteArgs} {course : Course Response} {panic : Panic} :
    router.recover args (scene.delay millis) request (course.delay millis) panic =
      (router.recover args scene request course panic).delay millis := by
  rw [recover, recover, Course.delay_precede, Course.returned_delay, List.map_append, ← Scene.loggedAll_delay]
  rfl

theorem run_delay {pipeline : Pipeline} :
    router.run pipeline (scene.delay millis) (now + millis) context request =
      (router.run pipeline scene now context request).delay millis := by
  have ran : pipeline.run (scene.delay millis) (now + millis) context request =
      (pipeline.run scene now context request).delay millis := runChain_delay ..
  rw [run, run, ran, Course.outcome_delay]
  split
  · exact recover_delay
  · rfl

/-- A request that comes some milliseconds later runs alike, that much later. -/
theorem course_delay (router : Router) (scene : Scene) (now millis : Nat) (context : Context) (request : Request) :
    router.course (scene.delay millis) (now + millis) context request =
      (router.course scene now context request).delay millis := by
  unfold course
  split
  · exact run_delay
  · rw [run_delay]
    exact Course.delay_andThen fun _ _ _ => rfl
  · exact run_delay

end Router

end ServiceHost
