import ServiceHost.Proofs.Trace.Chain
import ServiceHost.Router

/-!
Agreement on traces: where the recording stage lies outermost, as it does wherever the logger is on, the
stages, the handler, the answer and the records of a dispatch all have one trace id, also when the answer
is made after a panic.
-/

namespace ServiceHost

open Http Log

theorem Assembly.exists_stages {assembly : Assembly} (logging : assembly.logging = true) :
    ∃ inner, assembly.stages = .logging :: inner := by
  rw [stages, if_pos logging, List.append_assoc, List.append_assoc]
  exact ⟨_, rfl⟩

theorem Routing.mem_of_resolveFrom {α : Type} {allowed : List Method} {method : Method} {path : List String}
    {entries : List (Entry α)} {entry : Entry α} {parameters : Parameters}
    (found : resolveFrom allowed method path entries = .found entry parameters) : entry ∈ entries := by
  induction entries generalizing allowed with
  | nil =>
    unfold resolveFrom at found
    split at found <;> cases found
  | cons first rest inductionHypothesis =>
    unfold resolveFrom at found
    split at found
    · exact List.mem_cons_of_mem _ (inductionHypothesis found)
    · split at found
      · cases found
        exact List.mem_cons_self
      · split at found <;> exact List.mem_cons_of_mem _ (inductionHypothesis found)

namespace Router

/-- The pipeline through which a request runs. -/
def pipeline (router : Router) (request : Request) : Pipeline :=
  match Routing.resolve router.table request.method request.target.path with
  | .found entry _ => entry.target
  | .notAllowed _ => router.config.methodNotAllowedPipeline
  | .notFound => router.config.notFoundPipeline

/-- The context with which a request enters its pipeline. -/
def arrival (router : Router) (context : Context) (request : Request) : Context :=
  match Routing.resolve router.table request.method request.target.path with
  | .found _ parameters => context.withParameters parameters
  | _ => context

/-- The station at which a dispatched request enters its pipeline. -/
def outset (router : Router) (capture : Capture) (world : World) (context : Context) (request : Request) :
    Station :=
  ⟨(router.pipeline request).stages, { capture, world }, 0, router.arrival context request, request⟩

/-- The station behind the recording stage that lies around some inner ones. -/
def threshold (router : Router) (capture : Capture) (world : World) (context : Context) (request : Request)
    (inner : List Stage) : Station :=
  (router.outset capture world context request).recorded (router.pipeline request).args inner

/-- The trace id of a dispatched request: the one it brings along, or else one that is made for it. -/
def traceId (router : Router) (world : World) (request : Request) (inner : List Stage) : String :=
  (request.traceId? router.config.traceHeader).getD
    (Text.timedId world.clock (world.random inner.length))

variable {router : Router} {capture : Capture} {world : World} {context : Context} {request : Request}
  {traceId : String} {value : HeaderValue} {scene : Scene} {now : Nat}

/-- Every pipeline has the trace header of the configuration. -/
theorem traceHeader_pipeline : (router.pipeline request).args.traceHeader = router.config.traceHeader := by
  unfold pipeline
  split
  · rename_i entry _ found
    obtain ⟨route, _, rfl⟩ := List.mem_map.mp (Routing.mem_of_resolveFrom found)
    rfl
  · rfl
  · rfl

/-- A run without a panic is that of its pipeline. -/
theorem run_of_calm {pipeline : Pipeline}
    (calm : ∀ panic, (pipeline.run scene now context request).outcome ≠ .panicked panic) :
    router.run pipeline scene now context request = pipeline.run scene now context request := by
  cases outcome : (pipeline.run scene now context request).outcome with
  | panicked panic => exact absurd outcome (calm panic)
  | _ => simp only [run, outcome]

theorem run_of_returned {pipeline : Pipeline} {response : Response}
    (returned : (pipeline.run scene now context request).outcome = .returned response) :
    router.run pipeline scene now context request = pipeline.run scene now context request :=
  run_of_calm (by simp [returned])

theorem run_of_panicked {pipeline : Pipeline} {panic : Panic}
    (panicked : (pipeline.run scene now context request).outcome = .panicked panic) :
    router.run pipeline scene now context request =
      router.recover pipeline.args scene request (pipeline.run scene now context request) panic := by
  simp only [run, panicked]

/-- A request runs through its pipeline, and then the methods of its path may be told. -/
theorem course_cases (router : Router) (scene : Scene) (now : Nat) (context : Context) (request : Request) :
    let ran := router.run (router.pipeline request) scene now (router.arrival context request) request
    router.course scene now context request = ran ∨
      ∃ methods, router.course scene now context request = ran.map (announce methods) := by
  intro ran
  unfold course
  cases found : Routing.resolve router.table request.method request.target.path with
  | found entry parameters => simp [ran, pipeline, arrival, found]
  | notAllowed methods => exact .inr ⟨methods, by simp [ran, pipeline, arrival, found]⟩
  | notFound => simp [ran, pipeline, arrival, found]

theorem values_announce (methods : List Method) (response : Response) {name : HeaderName}
    (apart : name ≠ HeaderName.allow) :
    (announce methods response).headers.values name = response.headers.values name := by
  unfold announce
  split
  · rfl
  · exact Headers.values_set_of_ne _ _ apart

/-- A course ends with an answer that has the value of the trace id as the only one in its trace header, and
what it records is recorded under the id. -/
structure AnswersWith (course : Course Response) (router : Router) (capture : Capture) (traceId : String)
    (value : HeaderValue) : Prop where
  answer : ∃ response, course.outcome = .returned response ∧
    response.headers.values router.config.traceHeader = [value]
  records : capture.keeps .info → RecordsAll (Record.InTrace traceId) course.events

variable {course : Course Response} {inner : List Stage}

theorem AnswersWith.announce (answers : AnswersWith course router capture traceId value)
    (apart : router.config.traceHeader ≠ HeaderName.allow) (methods : List Method) :
    AnswersWith (course.map (announce methods)) router capture traceId value := by
  obtain ⟨⟨response, outcome, header⟩, records⟩ := answers
  refine ⟨⟨Router.announce methods response, ?_, (values_announce methods response apart).trans header⟩,
    fun info => ?_⟩
  · simp [Course.map, Course.andThen, outcome, Course.precede, Course.returned]
  · exact Course.recordsAll_andThen (records info) fun _ _ => .nil

/-- The answer after a panic has the trace id that the context still has. -/
theorem answersWith_recover (stands : value.StandsFor traceId) {args : RouteArgs}
    (traceHeader : args.traceHeader = router.config.traceHeader) {panic : Panic}
    (context : course.context.traceId = some traceId)
    (records : scene.capture.keeps .info → RecordsAll (Record.InTrace traceId) course.events) :
    AnswersWith (router.recover args scene request course panic) router scene.capture traceId value := by
  have traceText : course.context.traceText = traceId := by rw [Context.traceText, context, Option.getD_some]
  refine ⟨⟨_, rfl, ?_⟩, fun info => ?_⟩
  · have nonempty : ¬traceId.isEmpty := by simpa using stands.isTraceId.nonempty
    rw [restoreTrace, traceText, if_neg nonempty, ← traceHeader]
    exact stands.values_tagResponse
  · have kept : scene.capture.keeps .error := Capture.keeps_of_keeps (by decide) info
    have only : Scene.RecordsOnly { scene with spans := args.span.toList ++ [panicSpan course.context request] }
        (Record.InTrace traceId) := by
      intro entry _
      refine Record.inTrace_of_last kept ?_
      rw [← traceText]
      rfl
    exact RecordsAll.append.mpr ⟨RecordsAll.append.mpr ⟨records info, only.loggedAll _⟩, .nil⟩

/-- The run of a pipeline with the recording stage outermost. -/
theorem answersWith_run {pipeline : Pipeline} (stands : value.StandsFor traceId)
    (traceHeader : pipeline.args.traceHeader = router.config.traceHeader)
    (endless : scene.deadline = none) (logged : pipeline.stages = .logging :: inner)
    (found : Station.traceId ⟨pipeline.stages, scene, now, context, request⟩ pipeline.args inner = traceId)
    (leaves : ∀ next, Station.Reaches pipeline.args
      (Station.recorded ⟨pipeline.stages, scene, now, context, request⟩ pipeline.args inner) next →
        next.LeavesTrace pipeline.args pipeline.handler) :
    AnswersWith (router.run pipeline scene now context request) router scene.capture traceId value := by
  set outset : Station := ⟨pipeline.stages, scene, now, context, request⟩
  have carries : (outset.recorded pipeline.args inner).Carries pipeline.args scene.capture traceId value :=
    Station.carries_recorded stands found
  have context_eq := carries.context_course stands leaves
  have records (info : scene.capture.keeps .info) : RecordsAll (Record.InTrace traceId)
      ((outset.recorded pipeline.args inner).course pipeline.args pipeline.handler).events :=
    Station.recordsAll_course fun next reaches => (carries.reaches stands leaves reaches).records info
  have uncut : ((outset.recorded pipeline.args inner).course pipeline.args pipeline.handler).outcome ≠ .cut :=
    Station.uncut_course endless
  have first : outset.stages = .logging :: inner := logged
  have ran_eq : pipeline.run scene now context request = outset.course pipeline.args pipeline.handler := rfl
  obtain ⟨dump, course_eq⟩ := Station.course_logging pipeline.handler first
  rw [run, ran_eq, course_eq]
  generalize (outset.recorded pipeline.args inner).course pipeline.args pipeline.handler = behind at *
  cases outcome : behind.outcome with
  | returned response =>
    simp only [Course.andThen, outcome, Course.returned, Course.precede]
    refine ⟨⟨_, rfl, ?_⟩, fun info => ?_⟩
    · rw [found, ← traceHeader]
      exact stands.values_tagResponse
    · simp only [RecordsAll.append]
      exact ⟨records info, (carries.records info).logged _, .nil⟩
  | panicked panic =>
    simp only [Course.andThen, outcome]
    exact answersWith_recover stands traceHeader context_eq records
  | cut => exact absurd outcome uncut

/-- Where the logger is off neither for all routes nor for one of them, the recording stage lies outermost. -/
theorem exists_stages_pipeline (on : router.config.options.loggerDisabled = false)
    (every : ∀ route ∈ router.routes, route.loggerDisabled = false) :
    ∃ inner, (router.pipeline request).stages = .logging :: inner := by
  unfold pipeline
  split
  · rename_i entry _ found
    obtain ⟨route, member, rfl⟩ := List.mem_map.mp (Routing.mem_of_resolveFrom found)
    exact Assembly.exists_stages (by simp [on, every route member])
  · exact Assembly.exists_stages (by simp [on])
  · exact Assembly.exists_stages (by simp [on])

/-- The parties to a dispatch agree on a trace id and on its value as a header. -/
structure TraceAgreement (router : Router) (capture : Capture) (world : World) (context : Context)
    (request : Request) (inner : List Stage) (traceId : String) (value : HeaderValue) : Prop where
  stands : value.StandsFor traceId
  /-- The inner stages and the handler see the id in the context and as the only value in the trace header,
  and a further recording stage finds the same id. -/
  seen : ∀ station,
    Station.Reaches (router.pipeline request).args (router.threshold capture world context request inner)
      station → station.context.traceId = some traceId ∧
        station.request.headers.values router.config.traceHeader = [value] ∧
        ∀ rest, station.traceId (router.pipeline request).args rest = traceId
  /-- The inner stages see the id in the context on the way back, too. -/
  back : ∀ station,
    Station.Reaches (router.pipeline request).args (router.threshold capture world context request inner)
      station → (station.course (router.pipeline request).args
        (router.pipeline request).handler).context.traceId = some traceId
  /-- From a request to the next service that has the trace header as the handler saw it, the same id is
  derived. -/
  derived : ∀ forwarded : Request, forwarded.headers.values router.config.traceHeader = [value] →
    forwarded.traceId? router.config.traceHeader = some traceId
  answered : (router.dispatch capture world context request).response.headers.values
    router.config.traceHeader = [value]
  /-- Every record is made within a span of the id, and shows it unless its entry names another one itself. -/
  recorded : capture.keeps .info →
    RecordsAll
      (fun record => record.InTrace traceId ∧
        (record.entry.NamesNoOther traceId → record.field? "trace_id" = some (.text traceId)))
      (router.dispatch capture world context request).events

theorem AnswersWith.dispatch {answered : Course Response}
    (answers : AnswersWith answered router capture traceId value) :
    answered.dispatch.response.headers.values router.config.traceHeader = [value] := by
  obtain ⟨⟨response, outcome, header⟩, _⟩ := answers
  simpa [Course.dispatch, outcome] using header

/-- Where the recording stage lies outermost and the stages of the caller leave the trace alone, all parties
to a dispatch agree on the trace id, whether the chain answers, is cut short or panics. -/
theorem trace_agreement (router : Router) (capture : Capture) (world : World) (context : Context)
    (request : Request) {inner : List Stage} (logged : (router.pipeline request).stages = .logging :: inner)
    (apart : router.config.traceHeader ≠ HeaderName.allow)
    (leaves : ∀ station, Station.Reaches (router.pipeline request).args
      (router.threshold capture world context request inner) station →
        station.LeavesTrace (router.pipeline request).args (router.pipeline request).handler) :
    ∃ value, router.TraceAgreement capture world context request inner
      (router.traceId world request inner) value := by
  set traceId := router.traceId world request inner with traceId_eq
  have isTraceId : IsTraceId traceId := by
    rw [traceId_eq, Router.traceId]
    cases found : request.traceId? router.config.traceHeader with
    | none => exact isTraceId_timedId ..
    | some traceId => exact isTraceId_of_traceId? found
  obtain ⟨value, stands⟩ := isTraceId.exists_standsFor
  have header : (router.pipeline request).args.traceHeader = router.config.traceHeader := traceHeader_pipeline
  have found : (router.outset capture world context request).traceId (router.pipeline request).args inner =
      traceId := by
    rw [Station.traceId, header]
    rfl
  have carries : (router.threshold capture world context request inner).Carries (router.pipeline request).args
      capture traceId value := Station.carries_recorded stands found
  have ran : AnswersWith (router.run (router.pipeline request) { capture, world } 0
      (router.arrival context request) request) router capture traceId value :=
    answersWith_run stands header rfl logged found leaves
  have answers : AnswersWith (router.course { capture, world } 0 context request) router capture traceId
      value := by
    rcases course_cases router { capture, world } 0 context request with same | ⟨methods, told⟩
    · exact same ▸ ran
    · exact told ▸ ran.announce apart methods
  refine ⟨value, stands, fun station reaches => ?_, fun station reaches => ?_,
    fun forwarded => stands.traceId?, answers.dispatch,
    fun info => (answers.records info).imp fun record inTrace => ⟨inTrace, inTrace.field?⟩⟩
  · have there := carries.reaches stands leaves reaches
    exact ⟨there.context, header ▸ there.header, fun rest => there.traceId_eq stands⟩
  · exact (carries.reaches stands leaves reaches).context_course stands
      fun next further => leaves next (reaches.trans further)

/-- A handler that panics behind a stage that takes notes. -/
def noted : Router :=
  .make ⟨{}, ⟨[], 8017⟩, HeaderName.requestId⟩
    [{ path := "/a", handler := Handler.panicking .other, stages := [.caller (CallerStage.recorder "notes")] }]

/-- A request that brings a trace id along, with blanks around it. -/
def broughtAlong : Request where
  target := .origin ⟨"/a", none⟩
  headers := { fields := [(HeaderName.requestId, ⟨Bytes.ofString " abc ", by decide⟩)] }

theorem trace_agreement_panic :
    ∃ value, noted.TraceAgreement ⟨some .info⟩ {} {} broughtAlong
      [.timeout (.ofSeconds 60), .caller (CallerStage.recorder "notes")] "abc" value := by
  have notes : (CallerStage.recorder "notes").LeavesTrace :=
    CallerStage.leavesTrace_acting (by simp) (by simp [Process.LeavesTraceId, Process.after, Process.done])
  have found : noted.traceId {} broughtAlong
      [.timeout (.ofSeconds 60), .caller (CallerStage.recorder "notes")] = "abc" := by decide
  rw [← found]
  refine trace_agreement noted ⟨some .info⟩ {} {} broughtAlong rfl (by decide) fun station reaches =>
    Station.leavesTrace_of_reaches (fun stage member => ?_) reaches
  obtain rfl : stage = CallerStage.recorder "notes" := by
    simpa [threshold, Station.recorded] using member
  exact notes

end Router

end ServiceHost
