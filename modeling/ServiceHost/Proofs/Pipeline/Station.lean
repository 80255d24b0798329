import Mathlib.Logic.Relation
import ServiceHost.Pipeline.Run

/-!
Stations: the places at which a run of a chain lets a stage or the handler act. What is recorded during a
run is recorded at its stations, and a run without a deadline around it is never cut.
-/

namespace ServiceHost

open Http Log

variable {α β : Type} {kind : Record → Prop} {events others : List Event} {scene : Scene} {now : Nat}
  {context : Context}

/-- All records among some events are of a kind. -/
def RecordsAll (kind : Record → Prop) (events : List Event) : Prop :=
  ∀ event ∈ events, ∀ record, event.what = .record record → kind record

namespace RecordsAll

@[simp] theorem nil : RecordsAll kind [] := by
  simp [RecordsAll]

@[simp] theorem append : RecordsAll kind (events ++ others) ↔ RecordsAll kind events ∧ RecordsAll kind others := by
  simp only [RecordsAll, List.forall_mem_append]

theorem imp {other : Record → Prop} (all : RecordsAll kind events) (implies : ∀ record, kind record → other record) :
    RecordsAll other events :=
  fun event member record recorded => implies record (all event member record recorded)

theorem singleton {event : Event} (silent : ∀ record, event.what ≠ .record record) : RecordsAll kind [event] := by
  intro event member record recorded
  obtain rfl := List.mem_singleton.mp member
  exact absurd recorded (silent record)

end RecordsAll

namespace Scene

theorem recordsAll_logged {entry : Entry}
    (all : scene.capture.keeps entry.level → kind ⟨scene.capture.spans scene.spans, entry⟩) :
    RecordsAll kind (scene.logged now entry) := by
  intro event member record recorded
  obtain ⟨kept, found, rfl⟩ := List.mem_map.mp member
  obtain ⟨keeps, whole⟩ := Option.ite_none_right_eq_some.mp (Option.mem_toList.mp found)
  cases recorded
  exact Option.some.inj whole ▸ all keeps

theorem recordsAll_loggedAll {entries : List Entry}
    (all : ∀ entry ∈ entries, scene.capture.keeps entry.level → kind ⟨scene.capture.spans scene.spans, entry⟩) :
    RecordsAll kind (scene.loggedAll now entries) := by
  intro event member
  obtain ⟨entry, present, inside⟩ := List.mem_flatMap.mp member
  exact recordsAll_logged (all entry present) event inside

/-- What acts record are the entries that they log. -/
theorem recordsAll_perform {acts : List Act}
    (all : ∀ entry, .log entry ∈ acts → scene.capture.keeps entry.level →
      kind ⟨scene.capture.spans scene.spans, entry⟩) :
    RecordsAll kind (scene.perform acts now context).events := by
  induction acts generalizing now context with
  | nil => exact .nil
  | cons act acts inductionHypothesis =>
    have behind (now : Nat) (context : Context) : RecordsAll kind (scene.perform acts now context).events :=
      inductionHypothesis fun entry present => all entry (List.mem_cons_of_mem _ present)
    cases act with
    | note label => exact RecordsAll.append.mpr ⟨.singleton (by simp), behind now context⟩
    | log entry =>
      exact RecordsAll.append.mpr ⟨recordsAll_logged (all entry List.mem_cons_self), behind now context⟩
    | change change => exact behind now (change context)
    | rest millis =>
      unfold Scene.perform
      split
      · exact behind (now + millis) context
      · exact .nil

/-- Whatever is recorded in a scene is of a kind. -/
def RecordsOnly (scene : Scene) (kind : Record → Prop) : Prop :=
  ∀ entry, scene.capture.keeps entry.level → kind ⟨scene.capture.spans scene.spans, entry⟩

namespace RecordsOnly

theorem logged (only : scene.RecordsOnly kind) (entry : Entry) : RecordsAll kind (scene.logged now entry) :=
  recordsAll_logged (only entry)

theorem loggedAll (only : scene.RecordsOnly kind) (entries : List Entry) :
    RecordsAll kind (scene.loggedAll now entries) :=
  recordsAll_loggedAll fun entry _ => only entry

end RecordsOnly

end Scene

namespace Course

variable {course : Course α} {next : α → Nat → Context → Course β}

/-- One course and then another records what each of them does. -/
theorem recordsAll_andThen (first : RecordsAll kind course.events)
    (second : ∀ value, course.outcome = .returned value →
      RecordsAll kind (next value course.finish course.context).events) :
    RecordsAll kind (course.andThen next).events := by
  unfold andThen
  cases outcome : course.outcome with
  | returned value => exact RecordsAll.append.mpr ⟨first, second value outcome⟩
  | panicked panic => exact first
  | cut => exact first

/-- What holds of the context behind one course and is kept by the other one holds behind both. -/
theorem context_andThen (holds : Context → Prop) (first : holds course.context)
    (second : ∀ value, course.outcome = .returned value →
      holds (next value course.finish course.context).context) :
    holds (course.andThen next).context := by
  unfold andThen
  cases outcome : course.outcome with
  | returned value => exact second value outcome
  | panicked panic => exact first
  | cut => exact first

theorem uncut_andThen (first : course.outcome ≠ .cut)
    (second : ∀ value, course.outcome = .returned value →
      (next value course.finish course.context).outcome ≠ .cut) :
    (course.andThen next).outcome ≠ .cut := by
  unfold andThen
  cases outcome : course.outcome with
  | returned value => exact second value outcome
  | panicked panic => simp
  | cut => exact absurd outcome first

end Course

theorem Scene.recordsAll_run {process : Process α}
    (all : ∀ entry, .log entry ∈ process.acts → scene.capture.keeps entry.level →
      kind ⟨scene.capture.spans scene.spans, entry⟩) :
    RecordsAll kind (scene.run process now context).events := by
  refine Course.recordsAll_andThen (recordsAll_perform all) fun _ _ => ?_
  cases process.result <;> exact .nil

theorem Scene.RecordsOnly.run (only : scene.RecordsOnly kind) (process : Process α) :
    RecordsAll kind (scene.run process now context).events :=
  recordsAll_run fun entry _ => only entry

theorem Scene.uncut_perform (endless : scene.deadline = none) (acts : List Act) :
    (scene.perform acts now context).outcome ≠ .cut := by
  induction acts generalizing now context with
  | nil => simp [Scene.perform, Course.returned]
  | cons act acts inductionHypothesis =>
    cases act with
    | note | log | change => exact inductionHypothesis
    | rest millis =>
      have allowed : scene.allows (now + millis) := by simp [Scene.allows, endless]
      rw [Scene.perform, if_pos allowed]
      exact inductionHypothesis

theorem Scene.uncut_run (endless : scene.deadline = none) (process : Process α) :
    (scene.run process now context).outcome ≠ .cut := by
  refine Course.uncut_andThen (Scene.uncut_perform endless process.acts) fun _ _ => ?_
  cases process.result <;> simp [Course.returned]

/-- A deadline leaves a course as it is unless it cut it, and then it answers in its place. -/
theorem Scene.expire_cases (scene : Scene) (args : RouteArgs) (limit : Duration) (inner : Course Response) :
    (inner.outcome ≠ .cut ∧ scene.expire args limit inner = inner) ∨
      ∃ response entries, scene.expire args limit inner =
        ⟨.returned response, inner.finish, inner.context,
          inner.events ++ scene.loggedAll inner.finish entries⟩ := by
  unfold Scene.expire
  cases outcome : inner.outcome with
  | returned response => exact .inl ⟨by simp, rfl⟩
  | panicked panic => exact .inl ⟨by simp, rfl⟩
  | cut => exact .inr ⟨_, _, rfl⟩

/-- A place in a run of a chain: the stages that are left, and what the first of them gets, or the handler
if none is left. -/
structure Station where
  stages : List Stage
  scene : Scene
  now : Nat
  context : Context
  request : Request

namespace Station

/-- The run of the chain from a station on. -/
def course (station : Station) (args : RouteArgs) (handler : Handler) : Course Response :=
  runChain args handler station.stages station.scene station.now station.context station.request

/-- How a stage of the caller with some stages behind it takes what it gets. -/
def entered (station : Station) (args : RouteArgs) (stage : CallerStage) (rest : List Stage) :
    Course Verdict :=
  station.scene.run
    (stage.enter ⟨station.scene.world, args, rest.head?.map Stage.name, station.context, station.request⟩)
    station.now station.context

/-- The station behind a stage of the caller that passes on a request. -/
def behind (station : Station) (args : RouteArgs) (stage : CallerStage) (rest : List Stage)
    (request : Request) : Station :=
  let entered := station.entered args stage rest
  ⟨rest, station.scene, entered.finish, entered.context, request⟩

/-- The trace id that the recording stage finds or makes. -/
def traceId (station : Station) (args : RouteArgs) (rest : List Stage) : String :=
  (station.request.traceId? args.traceHeader).getD
    (Text.timedId station.scene.world.clock (station.scene.world.random rest.length))

/-- The station behind the recording stage. -/
def recorded (station : Station) (args : RouteArgs) (rest : List Stage) : Station :=
  let traceId := station.traceId args rest
  let context := station.context.withTraceId traceId
  let request := tagRequest args.traceHeader traceId station.request
  let span := requestSpan station.scene.world.clock traceId context request
  ⟨rest, { station.scene with spans := args.span.toList ++ [span] }, station.now, context, request⟩

/-- The station behind a deadline. -/
def limited (station : Station) (limit : Duration) (rest : List Stage) : Station :=
  { station with stages := rest, scene := station.scene.within (station.now + limit.timerMillis) }

/-- The station behind a measuring stage. -/
def measured (station : Station) (rest : List Stage) : Station :=
  { station with stages := rest, scene := station.scene.measured }

/-- A run goes on from one station to the next one. -/
inductive Inward (args : RouteArgs) (station : Station) : Station → Prop where
  | caller {stage : CallerStage} {rest : List Stage} {request : Request}
      {after : Context → Response → Process Response} (first : station.stages = .caller stage :: rest)
      (proceeds : (station.entered args stage rest).outcome = .returned (.proceed request after)) :
      Inward args station (station.behind args stage rest request)
  | logging {rest : List Stage} (first : station.stages = .logging :: rest) :
      Inward args station (station.recorded args rest)
  | timeout {limit : Duration} {rest : List Stage} (first : station.stages = .timeout limit :: rest) :
      Inward args station (station.limited limit rest)
  | instrument {rest : List Stage} (first : station.stages = .instrument :: rest) :
      Inward args station (station.measured rest)

/-- A run comes from one station to another one. -/
abbrev Reaches (args : RouteArgs) : Station → Station → Prop :=
  Relation.ReflTransGen (Inward args)

variable {args : RouteArgs} {handler : Handler} {station : Station} {stage : CallerStage} {rest : List Stage}
  {limit : Duration}

/-- A run goes inward stage by stage. -/
theorem Inward.stages_eq {next : Station} (inward : Inward args station next) :
    ∃ stage, station.stages = stage :: next.stages := by
  cases inward with
  | caller first => exact ⟨_, first⟩
  | logging first => exact ⟨_, first⟩
  | timeout first => exact ⟨_, first⟩
  | instrument first => exact ⟨_, first⟩

/-- What holds of a station if it holds of the next one holds of all. -/
theorem inward_induction (args : RouteArgs) {motive : Station → Prop}
    (step : ∀ station, (∀ next, Inward args station next → motive next) → motive station)
    (station : Station) : motive station := by
  induction stages : station.stages generalizing station with
  | nil =>
    refine step station fun next inward => ?_
    obtain ⟨stage, first⟩ := inward.stages_eq
    rw [first] at stages
    cases stages
  | cons stage rest inductionHypothesis =>
    refine step station fun next inward => inductionHypothesis next ?_
    obtain ⟨_, first⟩ := inward.stages_eq
    exact (List.cons.inj (first.symm.trans stages)).2

theorem course_handler (none : station.stages = []) :
    station.course args handler =
      { station.scene.run (handler ⟨station.scene.world, station.context, station.request⟩) station.now
          station.context with context := station.context } := by
  rw [course, none, runChain]

theorem course_caller (first : station.stages = .caller stage :: rest) :
    station.course args handler =
      (station.entered args stage rest).andThen fun verdict now context =>
        match verdict with
        | .answer response => Course.returned response now context
        | .proceed request after =>
          (course ⟨rest, station.scene, now, context, request⟩ args handler).andThen fun response now context =>
            station.scene.run (after context response) now context := by
  rw [course, first, runChain]
  rfl

theorem course_logging (handler : Handler) (first : station.stages = .logging :: rest) :
    ∃ dump, station.course args handler =
      ((station.recorded args rest).course args handler).andThen fun response finish context =>
        let response := tagResponse args.traceHeader (station.traceId args rest) response
        (Course.returned response finish context).precede
          ((station.recorded args rest).scene.logged finish
            (completionEntry dump (finish - station.now) response)) := by
  rw [course, first, runChain]
  exact ⟨_, rfl⟩

theorem course_timeout (first : station.stages = .timeout limit :: rest) :
    station.course args handler =
      if station.scene.allows (station.now + limit.timerMillis) then
        station.scene.expire args limit ((station.limited limit rest).course args handler)
      else (station.limited limit rest).course args handler := by
  rw [course, first, runChain]
  rfl

theorem course_instrument (first : station.stages = .instrument :: rest) :
    let inner := (station.measured rest).course args handler
    station.course args handler =
      (inner.precede [⟨station.now, .began⟩]).follow
        [⟨inner.finish, .ended args.endpoint (inner.answered station.now)⟩] := by
  intro inner
  rw [course, first, runChain]
  rfl

/-- All that a run records is recorded in the scenes of its stations. -/
theorem recordsAll_course (only : ∀ next, Reaches args station next → next.scene.RecordsOnly kind) :
    RecordsAll kind (station.course args handler).events := by
  induction station using inward_induction args with
  | step station inductionHypothesis =>
  have here := only station .refl
  have behind (next : Station) (inward : Inward args station next) :
      RecordsAll kind (next.course args handler).events :=
    inductionHypothesis next inward fun last reaches => only last (.head inward reaches)
  cases stages : station.stages with
  | nil =>
    rw [course_handler stages]
    exact here.run _
  | cons stage rest =>
    cases stage with
    | caller stage =>
      rw [course_caller stages]
      refine Course.recordsAll_andThen (here.run _) fun verdict entered => ?_
      cases verdict with
      | answer response => exact .nil
      | proceed request after =>
        refine Course.recordsAll_andThen (behind _ (.caller stages entered)) fun _ _ => here.run _
    | logging =>
      obtain ⟨dump, course_eq⟩ := course_logging handler stages
      rw [course_eq]
      refine Course.recordsAll_andThen (behind _ (.logging stages)) fun response _ => ?_
      exact RecordsAll.append.mpr ⟨(only _ (.single (.logging stages))).logged _, .nil⟩
    | timeout limit =>
      have inner := behind _ (.timeout stages)
      rw [course_timeout stages]
      split
      · rcases station.scene.expire_cases args limit ((station.limited limit rest).course args handler) with
          ⟨_, stays⟩ | ⟨response, entries, answers⟩
        · rw [stays]
          exact inner
        · rw [answers]
          exact RecordsAll.append.mpr ⟨inner, here.loggedAll entries⟩
      · exact inner
    | instrument =>
      rw [course_instrument stages]
      simp only [Course.follow, Course.events_precede, RecordsAll.append]
      exact ⟨⟨.singleton (by simp), behind _ (.instrument stages)⟩, .singleton (by simp)⟩

/-- A run is cut only by a deadline around it. -/
theorem uncut_course (endless : station.scene.deadline = none) :
    (station.course args handler).outcome ≠ .cut := by
  induction station using inward_induction args with
  | step station inductionHypothesis =>
  cases stages : station.stages with
  | nil =>
    rw [course_handler stages]
    exact Scene.uncut_run endless _
  | cons stage rest =>
    cases stage with
    | caller stage =>
      rw [course_caller stages]
      refine Course.uncut_andThen (Scene.uncut_run endless _) fun verdict entered => ?_
      cases verdict with
      | answer response => simp [Course.returned]
      | proceed request after =>
        have inner := inductionHypothesis _ (.caller stages entered) endless
        exact Course.uncut_andThen inner fun _ _ => Scene.uncut_run endless _
    | logging =>
      obtain ⟨dump, course_eq⟩ := course_logging handler stages
      have inner := inductionHypothesis _ (.logging stages) endless
      rw [course_eq]
      exact Course.uncut_andThen inner fun _ _ => by simp [Course.returned, Course.precede]
    | timeout limit =>
      have allowed : station.scene.allows (station.now + limit.timerMillis) := by
        simp [Scene.allows, endless]
      rw [course_timeout stages, if_pos allowed]
      rcases station.scene.expire_cases args limit ((station.limited limit rest).course args handler) with
        ⟨uncut, stays⟩ | ⟨response, entries, answers⟩
      · rwa [stays]
      · simp [answers]
    | instrument =>
      rw [course_instrument stages]
      exact inductionHypothesis _ (.instrument stages) endless

end Station

end ServiceHost
