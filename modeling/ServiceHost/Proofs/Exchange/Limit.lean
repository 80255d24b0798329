import ServiceHost.Proofs.Log.Completion
import ServiceHost.Proofs.Pipeline.Containment
import ServiceHost.Proofs.Pipeline.Deadline

/-!
Limits: how long the answer to a request takes. The limit of a request lies around everything but the recording stage,
and neither that stage nor the recovery of a panic nor a fallback takes any time of its own.
-/

namespace ServiceHost

open Http Log

/-- A trace header changes nothing but the headers. -/
theorem exists_headers_tagResponse (traceHeader : HeaderName) (traceId : String) (response : Response) :
    ∃ headers, tagResponse traceHeader traceId response = { response with headers } := by
  unfold tagResponse
  split
  · exact ⟨response.headers, rfl⟩
  · exact ⟨_, rfl⟩

theorem Course.finish_map {α β : Type} {change : α → β} {course : Course α} :
    (course.map change).finish = course.finish := by
  unfold Course.map andThen
  cases course.outcome <;> rfl

/-- To leave every value as it is leaves a course as it is. -/
theorem Course.map_self {α : Type} {course : Course α} : course.map (fun value => value) = course := by
  obtain ⟨outcome, finish, context, events⟩ := course
  cases outcome <;> simp [map, andThen, returned, precede]

/-- How the inner stages of a request are wrapped: within a limit, where zero means none, and behind the recording
stage or not. -/
structure Wrapping where
  recorded : Bool
  limit : Duration
  inner : List Stage

namespace Wrapping

/-- The deadline, if there is one, and what lies inside it. -/
def limited (wrapping : Wrapping) : List Stage :=
  (if wrapping.limit.isZero then [] else [.timeout wrapping.limit]) ++ wrapping.inner

/-- All stages. -/
def stages (wrapping : Wrapping) : List Stage :=
  (if wrapping.recorded then [.logging] else []) ++ wrapping.limited

variable {wrapping : Wrapping}

theorem limited_of_isZero (unlimited : wrapping.limit.isZero) : wrapping.limited = wrapping.inner := by
  rw [limited, if_pos unlimited, List.nil_append]

theorem limited_of_not_isZero (limits : ¬wrapping.limit.isZero) :
    wrapping.limited = .timeout wrapping.limit :: wrapping.inner := by
  rw [limited, if_neg limits, List.singleton_append]

end Wrapping

namespace Station

variable {args : RouteArgs} {handler : Handler} {station : Station} {rest : List Stage}

/-- The recording stage takes no time. -/
theorem finish_course_logging (first : station.stages = .logging :: rest) :
    (station.course args handler).finish = ((station.recorded args rest).course args handler).finish := by
  obtain ⟨dump, course_eq⟩ := course_logging handler first
  rw [course_eq, Course.andThen]
  cases ((station.recorded args rest).course args handler).outcome <;> rfl

/-- The recording stage passes on what it gets, with further headers at most. -/
theorem exists_headers_course_logging {response : Response} (first : station.stages = .logging :: rest)
    (returned : ((station.recorded args rest).course args handler).outcome = .returned response) :
    ∃ headers, (station.course args handler).outcome = .returned { response with headers } := by
  obtain ⟨dump, course_eq⟩ := course_logging handler first
  obtain ⟨headers, tagged⟩ := exists_headers_tagResponse args.traceHeader (station.traceId args rest) response
  refine ⟨headers, ?_⟩
  rw [course_eq, Course.andThen, returned, ← tagged]
  rfl

/-- Without a deadline around it a station is on its own. -/
theorem alone_of_endless (endless : station.scene.deadline = none) (stages : station.stages = rest) :
    station.alone rest = station := by
  obtain ⟨stages, scene, now, context, request⟩ := station
  cases scene
  cases endless
  cases stages
  rfl

variable {wrapping : Wrapping}

/-- A limit with no deadline around it decides: it leaves alone what is done in time, and gives up all else. -/
theorem limit_decides (endless : station.scene.deadline = none) (stages : station.stages = wrapping.limited)
    (limits : ¬wrapping.limit.isZero) :
    (((station.alone wrapping.inner).course args handler).finish ≤ station.now + wrapping.limit.timerMillis →
        station.course args handler = (station.alone wrapping.inner).course args handler) ∧
      (station.now + wrapping.limit.timerMillis < ((station.alone wrapping.inner).course args handler).finish →
        station.Expires args handler wrapping.limit wrapping.inner) :=
  course_of_earliest (stages.trans (Wrapping.limited_of_not_isZero limits)) (by simp [Scene.allows, endless])

/-- What is done in time within a limit is done as on its own. -/
theorem course_of_inTime (endless : station.scene.deadline = none) (stages : station.stages = wrapping.limited)
    (inTime : wrapping.limit.isZero ∨
      ((station.alone wrapping.inner).course args handler).finish ≤ station.now + wrapping.limit.timerMillis) :
    station.course args handler = (station.alone wrapping.inner).course args handler := by
  by_cases unlimited : wrapping.limit.isZero
  · rw [alone_of_endless endless (stages.trans (Wrapping.limited_of_isZero unlimited))]
  · exact (limit_decides endless stages unlimited).1 (inTime.resolve_left unlimited)

/-- Within a limit a run takes as long as on its own, and at most as long as the limit. -/
theorem finish_of_limit (endless : station.scene.deadline = none) (stages : station.stages = wrapping.limited) :
    (station.course args handler).finish =
      if wrapping.limit.isZero then ((station.alone wrapping.inner).course args handler).finish
      else min ((station.alone wrapping.inner).course args handler).finish
        (station.now + wrapping.limit.timerMillis) := by
  by_cases unlimited : wrapping.limit.isZero
  · rw [if_pos unlimited, course_of_inTime endless stages (.inl unlimited)]
  · rw [if_neg unlimited]
    rcases Nat.lt_or_ge (station.now + wrapping.limit.timerMillis)
      ((station.alone wrapping.inner).course args handler).finish with late | inTime
    · rw [((limit_decides endless stages unlimited).2 late).finish, min_eq_right late.le]
    · rw [course_of_inTime endless stages (.inr inTime), min_eq_left inTime]

end Station

namespace Router

variable {router : Router} {scene : Scene} {now : Nat} {context : Context} {request : Request} {response : Response}

/-- The station at which a request enters its pipeline. -/
def entrance (router : Router) (scene : Scene) (now : Nat) (context : Context) (request : Request) : Station :=
  ⟨(router.pipeline request).stages, scene, now, router.arrival context request, request⟩

/-- The course of the chain of a request, before a panic is recovered. -/
def chainFrom (router : Router) (scene : Scene) (now : Nat) (context : Context) (request : Request) : Course Response :=
  (router.entrance scene now context request).course (router.pipeline request).args (router.pipeline request).handler

/-- A request runs through its pipeline, and then its answer is closed. -/
theorem course_eq_map (router : Router) (scene : Scene) (now : Nat) (context : Context) (request : Request) :
    router.course scene now context request =
      (router.run (router.pipeline request) scene now (router.arrival context request) request).map
        (router.closing request) := by
  unfold course pipeline arrival closing
  cases Routing.resolve router.table request.method request.target.path with
  | notAllowed methods => rfl
  | found | notFound => exact Course.map_self.symm

/-- To recover from a panic takes no time. -/
theorem finish_run (router : Router) (scene : Scene) (now : Nat) (context : Context) (request : Request) :
    (router.run (router.pipeline request) scene now (router.arrival context request) request).finish =
      (router.chainFrom scene now context request).finish := by
  unfold run
  dsimp only
  split <;> rfl

/-- To recover from a panic and to close an answer takes no time. -/
theorem finish_course (router : Router) (scene : Scene) (now : Nat) (context : Context) (request : Request) :
    (router.course scene now context request).finish = (router.chainFrom scene now context request).finish := by
  rw [course_eq_map, Course.finish_map, finish_run]

theorem exists_headers_closing (router : Router) (request : Request) (response : Response) :
    ∃ headers, router.closing request response = { response with headers } := by
  unfold closing announce
  split
  · split
    · exact ⟨response.headers, rfl⟩
    · exact ⟨_, rfl⟩
  · exact ⟨response.headers, rfl⟩

/-- What the chain returns goes out, with further headers at most. -/
theorem exists_headers_course (returned : (router.chainFrom scene now context request).outcome = .returned response) :
    ∃ headers, (router.course scene now context request).outcome = .returned { response with headers } := by
  have ran : router.run (router.pipeline request) scene now (router.arrival context request) request =
      router.chainFrom scene now context request := run_of_returned returned
  obtain ⟨headers, closing_eq⟩ := router.exists_headers_closing request response
  refine ⟨headers, ?_⟩
  rw [course_of_returned ((congrArg Course.outcome ran).trans returned), closing_eq]

/-- Where no deadline lies around it, every request is answered. -/
theorem exists_answer (router : Router) (now : Nat) (context : Context) (request : Request)
    (endless : scene.deadline = none) :
    ∃ answer, (router.course scene now context request).outcome = .returned answer := by
  have uncut : (router.chainFrom scene now context request).outcome ≠ .cut := Station.uncut_course endless
  cases outcome : (router.chainFrom scene now context request).outcome with
  | returned response =>
    obtain ⟨headers, answered⟩ := exists_headers_course outcome
    exact ⟨_, answered⟩
  | panicked panic =>
    have ran : router.run (router.pipeline request) scene now (router.arrival context request) request =
        router.recover (router.pipeline request).args scene request
          (router.chainFrom scene now context request) panic := run_of_panicked outcome
    rw [course_of_returned (congrArg Course.outcome ran)]
    exact ⟨_, rfl⟩
  | cut => exact absurd outcome uncut

/-- The station behind the recording stage, if there is one. -/
def gate (router : Router) (scene : Scene) (context : Context) (request : Request) (wrapping : Wrapping) : Station :=
  let entrance := router.entrance scene 0 context request
  if wrapping.recorded then entrance.recorded (router.pipeline request).args wrapping.limited else entrance

/-- The course of the chain of a request from its limit on. -/
def limitedCourse (router : Router) (scene : Scene) (context : Context) (request : Request) (wrapping : Wrapping) :
    Course Response :=
  (router.gate scene context request wrapping).course (router.pipeline request).args (router.pipeline request).handler

/-- The course of the inner stages and the handler on their own, without the limit. -/
def ownCourse (router : Router) (scene : Scene) (context : Context) (request : Request) (wrapping : Wrapping) :
    Course Response :=
  ((router.gate scene context request wrapping).alone wrapping.inner).course (router.pipeline request).args
    (router.pipeline request).handler

/-- A request that is wrapped in some stages keeps the limit among them. -/
structure KeepsLimit (router : Router) (scene : Scene) (context : Context) (request : Request) (wrapping : Wrapping) :
    Prop where
  stages : (router.pipeline request).stages = wrapping.stages
  /-- The answer is there when the inner stages and the handler are done, or at the limit if that is earlier. -/
  finish : (router.course scene 0 context request).finish =
    if wrapping.limit.isZero then (router.ownCourse scene context request wrapping).finish
    else min (router.ownCourse scene context request wrapping).finish wrapping.limit.timerMillis
  /-- What is done in time stays as it is. -/
  inTime : wrapping.limit.isZero ∨
      (router.ownCourse scene context request wrapping).finish ≤ wrapping.limit.timerMillis →
    router.limitedCourse scene context request wrapping = router.ownCourse scene context request wrapping
  /-- What is not done in time is given up at the limit, which answers in its place. -/
  late : ¬wrapping.limit.isZero →
    wrapping.limit.timerMillis < (router.ownCourse scene context request wrapping).finish →
      (router.gate scene context request wrapping).Expires (router.pipeline request).args
        (router.pipeline request).handler wrapping.limit wrapping.inner
  /-- What is answered within or at the limit goes out, with further headers at most. -/
  answered : ∀ response, (router.limitedCourse scene context request wrapping).outcome = .returned response →
    ∃ headers, (router.course scene 0 context request).outcome = .returned { response with headers }

variable {wrapping : Wrapping}

theorem stages_gate (wrapped : (router.pipeline request).stages = wrapping.stages) :
    (router.gate scene context request wrapping).stages = wrapping.limited := by
  unfold gate
  cases recorded : wrapping.recorded with
  | false => exact wrapped.trans (by simp [Wrapping.stages, recorded])
  | true => rfl

theorem now_gate : (router.gate scene context request wrapping).now = 0 := by
  unfold gate
  split <;> rfl

theorem deadline_gate : (router.gate scene context request wrapping).scene.deadline = scene.deadline := by
  unfold gate
  split <;> rfl

/-- The recording stage takes no time, and what it returns is what it gets, with further headers at most. -/
theorem chainFrom_of_limitedCourse (scene : Scene) (context : Context)
    (wrapped : (router.pipeline request).stages = wrapping.stages) :
    (router.chainFrom scene 0 context request).finish =
        (router.limitedCourse scene context request wrapping).finish ∧
      ∀ response, (router.limitedCourse scene context request wrapping).outcome = .returned response →
        ∃ headers, (router.chainFrom scene 0 context request).outcome = .returned { response with headers } := by
  unfold limitedCourse gate
  cases recorded : wrapping.recorded with
  | false => exact ⟨rfl, fun response returned => ⟨response.headers, returned⟩⟩
  | true =>
    have first : (router.entrance scene 0 context request).stages = .logging :: wrapping.limited :=
      wrapped.trans (by simp [Wrapping.stages, recorded])
    exact ⟨Station.finish_course_logging first, fun _ => Station.exists_headers_course_logging first⟩

/-- A request keeps the limit in which it is wrapped. -/
theorem keepsLimit (context : Context) (endless : scene.deadline = none)
    (wrapped : (router.pipeline request).stages = wrapping.stages) :
    router.KeepsLimit scene context request wrapping := by
  have stages : (router.gate scene context request wrapping).stages = wrapping.limited := stages_gate wrapped
  have around : (router.gate scene context request wrapping).scene.deadline = none := deadline_gate.trans endless
  have start : (router.gate scene context request wrapping).now + wrapping.limit.timerMillis =
      wrapping.limit.timerMillis := by rw [now_gate, Nat.zero_add]
  obtain ⟨finish, headers⟩ := chainFrom_of_limitedCourse scene context wrapped
  constructor
  case stages => exact wrapped
  case finish =>
    rw [finish_course, finish, limitedCourse, Station.finish_of_limit around stages, start]
    rfl
  case inTime =>
    intro inTime
    exact Station.course_of_inTime around stages (start.symm ▸ inTime)
  case late =>
    intro limits late
    exact (Station.limit_decides around stages limits).2 (start.symm ▸ late)
  case answered =>
    intro response returned
    obtain ⟨_, chain⟩ := headers response returned
    obtain ⟨_, answered⟩ := exists_headers_course chain
    exact ⟨_, answered⟩

/-- How the stages of the configuration and those of a route are wrapped. The limit of the route comes before the one of
the configuration. -/
def routeWrapping (router : Router) (route : Route) : Wrapping where
  recorded := !router.config.options.loggerDisabled && !route.loggerDisabled
  limit := route.timeout.getD router.config.options.timeouts.request
  inner := router.config.options.stages ++ route.stages

/-- A fallback may be recorded, but no limit lies around it. -/
def fallbackWrapping (router : Router) : Wrapping where
  recorded := !router.config.options.loggerDisabled
  limit := Duration.zero
  inner := []

theorem stages_of_found {route : Route} {parameters : Parameters}
    (found : Routing.resolve router.table request.method request.target.path =
      .found (router.entry route) parameters) :
    (router.pipeline request).stages = (router.routeWrapping route).stages := by
  rw [pipeline, found]
  simp [entry, Config.routePipeline, Assembly.build, Assembly.stages, routeWrapping, Wrapping.stages, Wrapping.limited]

theorem stages_of_unfound (unfound : ∀ entry parameters,
      Routing.resolve router.table request.method request.target.path ≠ .found entry parameters) :
    (router.pipeline request).stages = router.fallbackWrapping.stages := by
  unfold pipeline
  split
  · rename_i found
    exact absurd found (unfound _ _)
  · simp [Config.methodNotAllowedPipeline, Config.fallbackPipeline, Assembly.build, Assembly.stages, fallbackWrapping,
      Wrapping.stages, Wrapping.limited]
  · simp [Config.notFoundPipeline, Config.fallbackPipeline, Assembly.build, Assembly.stages, fallbackWrapping,
      Wrapping.stages, Wrapping.limited]

end Router

end ServiceHost
