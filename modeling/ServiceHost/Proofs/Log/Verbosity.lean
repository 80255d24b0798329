import ServiceHost.Proofs.Log.Hearing
import ServiceHost.Proofs.Trace.Agreement

/-!
Verbosity: how much of the log is captured changes nothing but the log. A dispatch is the same under every two
captures, a capture leaves exactly the records that are severe enough, and below the level for debugging no
request is dumped, so that nothing is redacted either.
-/

namespace ServiceHost

open Http Log

namespace Routing

variable {α β : Type}

/-- The entry with another target. -/
def Entry.map (change : α → β) (entry : Entry α) : Entry β := { entry with target := change entry.target }

/-- The resolution with another target. -/
def Resolution.map (change : α → β) : Resolution α → Resolution β
  | .found entry parameters => .found (entry.map change) parameters
  | .notAllowed methods => .notAllowed methods
  | .notFound => .notFound

/-- How a request is resolved does not depend on the targets. -/
theorem resolve_map (change : α → β) (entries : List (Entry α)) (method : Http.Method) (path : String) :
    resolve (entries.map (.map change)) method path = (resolve entries method path).map change := by
  unfold resolve
  generalize ([] : List Http.Method) = allowed
  induction entries generalizing allowed with
  | nil =>
    simp only [List.map_nil, resolveFrom]
    split <;> rfl
  | cons entry entries inductionHypothesis =>
    simp only [List.map_cons, resolveFrom, Entry.map]
    cases entry.pattern.matchFrom Parameters.empty (pathSegments path) with
    | none => exact inductionHypothesis allowed
    | some parameters =>
      simp only
      split
      · rfl
      · split <;> exact inductionHypothesis _

end Routing

/-! ### The redactor -/

/-- The stage for which the redactor of its route is another one. -/
def Stage.seeing (redactor : Redactor) : Stage → Stage
  | .caller stage =>
    .caller { stage with enter := fun visit => stage.enter { visit with args := { visit.args with redactor } } }
  | stage => stage

@[simp] theorem Stage.name_seeing (redactor : Redactor) (stage : Stage) :
    (stage.seeing redactor).name = stage.name := by
  cases stage <;> rfl

/-- The pipeline with another redactor, of which no stage of the caller learns. -/
def Pipeline.redacting (pipeline : Pipeline) (redactor : Redactor) : Pipeline where
  args := { pipeline.args with redactor }
  stages := pipeline.stages.map (.seeing pipeline.args.redactor)
  handler := pipeline.handler

/-- The route of which no stage learns of another redactor than this one. -/
def Route.seeing (redactor : Redactor) (route : Route) : Route :=
  { route with stages := route.stages.map (.seeing redactor) }

/-- The configuration with another redactor, of which no stage of the caller learns. -/
def Config.redacting (config : Config) (redactor : Redactor) : Config :=
  { config with options :=
      { config.options with redactor, stages := config.options.stages.map (.seeing config.options.redactor) } }

/-- The router with another redactor, of which no stage of the caller learns. -/
def Router.redacting (router : Router) (redactor : Redactor) : Router where
  config := router.config.redacting redactor
  routes := router.routes.map (.seeing router.config.options.redactor)

section Redactor

variable {scene : Scene} {now : Nat} {context : Context} {request : Request}

/-- A chain that is not captured for debugging never redacts. -/
theorem runChain_seeing (args : RouteArgs) (redactor : Redactor) (handler : Handler) (stages : List Stage)
    (undebugged : scene.capture.debugging = false) :
    runChain { args with redactor } handler (stages.map (.seeing args.redactor)) scene now context request =
      runChain args handler stages scene now context request := by
  induction stages generalizing scene now context request with
  | nil => rfl
  | cons stage rest inductionHypothesis =>
    rw [List.map_cons]
    cases stage with
    | caller stage =>
      have following : ((rest.map (Stage.seeing args.redactor)).head?.map Stage.name) =
          rest.head?.map Stage.name := by
        cases rest with
        | nil => rfl
        | cons next rest => simp
      simp only [Stage.seeing, runChain, following]
      congr 1
      funext verdict now context
      cases verdict with
      | answer response => rfl
      | proceed request after =>
        simp only
        rw [inductionHypothesis undebugged]
    | logging =>
      simp only [Stage.seeing, runChain, List.length_map]
      rw [inductionHypothesis (by exact undebugged), if_neg (by simp [undebugged]), if_neg (by simp [undebugged])]
    | timeout limit =>
      have undebuggedWithin : (scene.within (now + limit.timerMillis)).capture.debugging = false := by
        rwa [Scene.capture_within]
      simp only [Stage.seeing, runChain]
      rw [inductionHypothesis undebuggedWithin]
      rfl
    | instrument =>
      simp only [Stage.seeing, runChain]
      rw [inductionHypothesis (by exact undebugged)]
      rfl

theorem Assembly.build_redacting (assembly : Assembly) (redactor : Redactor) (handler : Handler) :
    build
        { assembly with
          args := { assembly.args with redactor }
          shared := assembly.shared.map (.seeing assembly.args.redactor)
          own := assembly.own.map (.seeing assembly.args.redactor) } handler =
      (assembly.build handler).redacting redactor := by
  simp only [build, stages, Pipeline.redacting, List.map_append, apply_ite (List.map (Stage.seeing _)), List.map_cons,
    List.map_nil, Stage.seeing]

theorem Config.routePipeline_redacting (config : Config) (redactor : Redactor) (route : Route) :
    (config.redacting redactor).routePipeline (route.seeing config.options.redactor) =
      (config.routePipeline route).redacting redactor := by
  unfold routePipeline
  rw [← Assembly.build_redacting]
  rfl

theorem Config.fallbackPipeline_redacting (config : Config) (redactor : Redactor) (description : String)
    (handler : Handler) : (config.redacting redactor).fallbackPipeline description handler =
      (config.fallbackPipeline description handler).redacting redactor := by
  unfold fallbackPipeline
  rw [← Assembly.build_redacting]
  rfl

theorem Router.run_redacting (router : Router) (redactor : Redactor) (pipeline : Pipeline)
    (undebugged : scene.capture.debugging = false) :
    (router.redacting redactor).run (pipeline.redacting redactor) scene now context request =
      router.run pipeline scene now context request := by
  have chain : (pipeline.redacting redactor).run scene now context request =
      pipeline.run scene now context request :=
    runChain_seeing pipeline.args redactor pipeline.handler pipeline.stages undebugged
  unfold run
  rw [chain]
  rfl

/-- A course that is not captured for debugging is the same under every redactor. -/
theorem Router.course_redacting (router : Router) (redactor : Redactor)
    (undebugged : scene.capture.debugging = false) :
    (router.redacting redactor).course scene now context request = router.course scene now context request := by
  have table : (router.redacting redactor).table = router.table.map (·.map (·.redacting redactor)) := by
    simp only [Router.table, redacting, List.map_map]
    congr 1
    funext route
    simp [entry, Routing.Entry.map, Route.seeing, ← Config.routePipeline_redacting]
  unfold course
  rw [table, Routing.resolve_map]
  cases Routing.resolve router.table request.method request.target.path with
  | found entry parameters => exact router.run_redacting redactor entry.target undebugged
  | notAllowed methods =>
    show ((router.redacting redactor).run (router.config.redacting redactor).methodNotAllowedPipeline scene now context
      request).map (announce methods) = _
    rw [Config.methodNotAllowedPipeline, Config.fallbackPipeline_redacting, run_redacting _ _ _ undebugged]
    rfl
  | notFound =>
    show (router.redacting redactor).run (router.config.redacting redactor).notFoundPipeline scene now context
      request = _
    rw [Config.notFoundPipeline, Config.fallbackPipeline_redacting, run_redacting _ _ _ undebugged]
    rfl

end Redactor

/-! ### Dumps -/

/-- Some fields hold the dump of a request. -/
def Log.Fields.HoldDump (fields : Fields) : Prop := "request_dump" ∈ fields.map Prod.fst

/-- A process logs an entry. -/
def Process.Logs {α : Type} (process : Process α) (entry : Entry) : Prop := .log entry ∈ process.acts

/-- A stage of the caller logs an entry, before it passes a request on or after it got the response. -/
inductive CallerStage.Logs (stage : CallerStage) (entry : Entry) : Prop where
  | before (visit : Visit) (logs : (stage.enter visit).Logs entry)
  | after (visit : Visit) (context : Context) (response : Response) {request : Request}
      {after : Context → Response → Process Response}
      (proceeds : (stage.enter visit).result = .ok (.proceed request after))
      (logs : (after context response).Logs entry)

/-- What the application put around a request logs an entry itself. -/
inductive Router.Logs (router : Router) (request : Request) (entry : Entry) : Prop where
  | handler (call : Call) (logs : ((router.pipeline request).handler call).Logs entry)
  | stage (stage : CallerStage) (present : .caller stage ∈ (router.pipeline request).stages) (logs : stage.Logs entry)
  | panicHandler (world : World) (context : Context) (recovered : Recovered)
      (logs : entry ∈ (router.config.panicHandler world context recovered).entries)

/-- A record holds a dump only in a configured span or in an entry of the application. -/
structure Log.Record.HasNoOwnDump (span? : Option Span) (Logs : Entry → Prop) (record : Record) : Prop where
  spans : ∀ span ∈ record.spans, span.fields.HoldDump → span? = some span
  entry : record.entry.fields.HoldDump → Logs record.entry

section Dumps

variable {scene : Scene} {now : Nat} {context : Context} {request : Request} {spans : List Span} {span? : Option Span}
  {Logs : Entry → Prop}

/-- Of some spans only the configured one holds a dump. -/
def Log.NoOwnDumps (span? : Option Span) (spans : List Span) : Prop :=
  ∀ span ∈ spans, span.fields.HoldDump → span? = some span

theorem Log.NoOwnDumps.snoc {span : Span} (none : ¬span.fields.HoldDump) :
    NoOwnDumps span? (span?.toList ++ [span]) := by
  intro other present holds
  rcases List.mem_append.mp present with configured | new
  · exact Option.mem_toList.mp configured
  · rw [List.mem_singleton.mp new] at holds
    exact absurd holds none

/-- An entry without a dump, or one of the application, is recorded without a dump of the chain's own. -/
theorem Log.NoOwnDumps.record (spans : NoOwnDumps span? scene.spans) {entry : Entry}
    (logs : entry.fields.HoldDump → Logs entry) :
    Record.HasNoOwnDump span? Logs ⟨scene.capture.spans scene.spans, entry⟩ where
  spans := fun span present => spans span (List.mem_of_mem_filter present)
  entry := logs

theorem not_holdDump_requestSpan (clock : Timestamp) (traceId : String) (context : Context) (request : Request) :
    ¬(requestSpan clock traceId context request).fields.HoldDump := by
  simp [requestSpan, Fields.HoldDump]

theorem not_holdDump_panicSpan (context : Context) (request : Request) :
    ¬(Router.panicSpan context request).fields.HoldDump := by
  simp [Router.panicSpan, Fields.HoldDump]

theorem not_holdDump_completionEntry (elapsed : Nat) (response : Response) :
    ¬(completionEntry none elapsed response).fields.HoldDump := by
  unfold completionEntry Fields.HoldDump
  split <;> simp

theorem not_holdDump_of_mem_deadline {args : RouteArgs} {limit : Duration} {clock : Timestamp} {entry : Entry}
    (present : entry ∈ deadlineEntry args limit :: (deadlineAnswer clock context).entries) :
    ¬entry.fields.HoldDump := by
  simp only [deadlineAnswer, Envelope.send_entries, List.mem_cons, List.not_mem_nil, or_false] at present
  rcases present with rfl | rfl
  · simp [deadlineEntry, Fields.HoldDump]
  · simp [Envelope.entry, Fields.HoldDump]

/-- A chain that is not captured for debugging dumps no request. -/
theorem recordsAll_chain (args : RouteArgs) (handler : Handler) (stages : List Stage)
    (undebugged : scene.capture.debugging = false) (spans : NoOwnDumps args.span scene.spans)
    (handled : ∀ call entry, (handler call).Logs entry → Logs entry)
    (staged : ∀ stage, .caller stage ∈ stages → ∀ entry, stage.Logs entry → Logs entry) :
    RecordsAll (Record.HasNoOwnDump args.span Logs)
      (runChain args handler stages scene now context request).events := by
  induction stages generalizing scene now context request with
  | nil => exact Scene.recordsAll_run fun entry logs _ => spans.record fun _ => handled _ entry logs
  | cons stage rest inductionHypothesis =>
    have behind {scene : Scene} (now : Nat) (context : Context) (request : Request)
        (undebugged : scene.capture.debugging = false) (spans : NoOwnDumps args.span scene.spans) :
        RecordsAll (Record.HasNoOwnDump args.span Logs)
          (runChain args handler rest scene now context request).events :=
      inductionHypothesis undebugged spans fun stage present => staged stage (List.mem_cons_of_mem _ present)
    cases stage with
    | caller stage =>
      have own := staged stage List.mem_cons_self
      unfold runChain
      refine Course.recordsAll_andThen (Scene.recordsAll_run fun entry logs _ =>
        spans.record fun _ => own entry (.before _ logs)) fun verdict entered => ?_
      cases verdict with
      | answer response => exact .nil
      | proceed request after =>
        refine Course.recordsAll_andThen (behind _ _ _ undebugged spans) fun response _ => ?_
        refine Scene.recordsAll_run fun entry logs _ => spans.record fun _ => own entry ?_
        exact .after _ _ response (Scene.result_of_run entered) logs
    | logging =>
      unfold runChain
      refine Course.recordsAll_andThen (behind _ _ _ undebugged (.snoc (not_holdDump_requestSpan _ _ _ _)))
        fun response _ => ?_
      refine RecordsAll.append.mpr ⟨Scene.recordsAll_logged fun _ => ?_, .nil⟩
      refine Log.NoOwnDumps.record (.snoc (not_holdDump_requestSpan _ _ _ _)) fun holds => ?_
      rw [if_neg (by simp [undebugged])] at holds
      exact absurd holds (not_holdDump_completionEntry _ _)
    | timeout limit =>
      have inner : RecordsAll (Record.HasNoOwnDump args.span Logs) (runChain args handler rest
          (scene.within (now + limit.timerMillis)) now context request).events := by
        refine behind _ _ _ (by rwa [Scene.capture_within]) ?_
        unfold Scene.within
        split <;> exact spans
      unfold runChain
      simp only
      split
      · unfold Scene.expire
        split
        · refine RecordsAll.append.mpr ⟨inner, Scene.recordsAll_loggedAll fun entry present _ => ?_⟩
          exact spans.record fun holds => absurd holds (not_holdDump_of_mem_deadline present)
        · exact inner
      · exact inner
    | instrument =>
      unfold runChain
      refine RecordsAll.append.mpr ⟨RecordsAll.append.mpr ⟨.singleton (by simp), ?_⟩, .singleton (by simp)⟩
      exact behind _ _ _ undebugged spans

/-- Every pipeline has the span of the configuration. -/
theorem Router.span_pipeline (router : Router) (request : Request) :
    (router.pipeline request).args.span = router.config.options.span := by
  unfold pipeline
  split
  · rename_i entry _ found
    obtain ⟨route, _, rfl⟩ := List.mem_map.mp (Routing.mem_of_resolveFrom found)
    rfl
  · rfl
  · rfl

/-- Neither does the answer to a panic. -/
theorem Router.recordsAll_run (router : Router) (undebugged : scene.capture.debugging = false)
    (outermost : scene.spans = []) :
    RecordsAll (Record.HasNoOwnDump (router.pipeline request).args.span (router.Logs request))
      (router.run (router.pipeline request) scene now context request).events := by
  have chain : RecordsAll (Record.HasNoOwnDump (router.pipeline request).args.span (router.Logs request))
      ((router.pipeline request).run scene now context request).events := by
    refine recordsAll_chain _ _ _ undebugged ?_ (fun call entry logs => .handler call logs)
      fun stage present entry logs => .stage stage present logs
    rw [outermost]
    exact List.forall_mem_nil _
  unfold run
  simp only
  split
  · refine RecordsAll.append.mpr ⟨RecordsAll.append.mpr ⟨chain, ?_⟩, .nil⟩
    refine Scene.recordsAll_loggedAll fun entry present _ => ?_
    exact Log.NoOwnDumps.record (.snoc (not_holdDump_panicSpan _ _)) fun _ => .panicHandler _ _ _ present
  · exact chain

theorem Router.recordsAll_course (router : Router) (undebugged : scene.capture.debugging = false)
    (outermost : scene.spans = []) :
    RecordsAll (Record.HasNoOwnDump router.config.options.span (router.Logs request))
      (router.course scene now context request).events := by
  have ran : RecordsAll (Record.HasNoOwnDump (router.pipeline request).args.span (router.Logs request))
      (router.run (router.pipeline request) scene now (router.arrival context request) request).events :=
    router.recordsAll_run undebugged outermost
  rw [span_pipeline] at ran
  rcases router.course_cases scene now context request with same | ⟨methods, told⟩
  · rwa [same]
  · rw [told]
    exact Course.recordsAll_andThen ran fun _ _ => .nil

end Dumps

/-- Two dispatches are the same save for what they record. -/
structure Dispatch.SameButLog (one other : Dispatch) : Prop where
  response : one.response = other.response
  finish : one.finish = other.finish
  context : one.context = other.context
  journal : journal one.events = journal other.events
  /-- Everything that happens but is no record happens at the same time and in the same order. -/
  unrecorded : unrecorded one.events = unrecorded other.events

namespace Router

variable {request : Request}

/-- What the verbosity of the log means for a dispatch. -/
structure OnlyLogs (router : Router) (capture other : Capture) (world : World) (context : Context)
    (request : Request) : Prop where
  /-- Under another capture everything but the log is the same. -/
  same : (router.dispatch capture world context request).SameButLog (router.dispatch other world context request)
  /-- The records are those of the most verbose capture that are severe enough. -/
  headlines : (records (router.dispatch capture world context request).events).map Record.headline =
    ((records (router.dispatch ⟨some .trace⟩ world context request).events).filter
      (capture.keeps ·.entry.level)).map Record.headline
  /-- Below the level for debugging nothing is redacted: the redactor might as well be any other one. -/
  unredacted : capture.debugging = false → ∀ redactor,
    (router.redacting redactor).dispatch capture world context request =
      router.dispatch capture world context request
  /-- Below the level for debugging no request is dumped, unless the application does so itself. -/
  undumped : capture.debugging = false →
    ∀ record ∈ records (router.dispatch capture world context request).events,
      record.HasNoOwnDump router.config.options.span (router.Logs request)

theorem heardBy_dispatch (router : Router) (capture : Capture) (world : World) (context : Context)
    (request : Request) :
    (router.course { capture := ⟨some .trace⟩, world } 0 context request).HeardBy capture
      (router.course { capture, world } 0 context request) :=
  router.heardBy_course Capture.keeps_trace

theorem sameButLog_dispatch (router : Router) (capture other : Capture) (world : World) (context : Context)
    (request : Request) :
    (router.dispatch capture world context request).SameButLog (router.dispatch other world context request) := by
  have here := router.heardBy_dispatch capture world context request
  have there := router.heardBy_dispatch other world context request
  have unrecorded := here.unrecorded.trans there.unrecorded.symm
  constructor
  case response => simp only [dispatch, Course.dispatch, here.outcome, there.outcome]
  case finish => exact here.finish.trans there.finish.symm
  case context => exact here.context.trans there.context.symm
  case journal =>
    exact (journal_unrecorded _).symm.trans ((congrArg ServiceHost.journal unrecorded).trans (journal_unrecorded _))
  case unrecorded => exact unrecorded

/-- How much of the log is captured changes nothing but the log. -/
theorem only_logs (router : Router) (capture other : Capture) (world : World) (context : Context)
    (request : Request) : router.OnlyLogs capture other world context request where
  same := router.sameButLog_dispatch capture other world context request
  headlines := (router.heardBy_dispatch capture world context request).headlines
  unredacted undebugged redactor := by rw [dispatch, dispatch, course_redacting router redactor undebugged]
  undumped undebugged record present := by
    obtain ⟨event, inside, recorded⟩ := List.mem_filterMap.mp present
    refine router.recordsAll_course undebugged rfl event inside record ?_
    split at recorded
    · rename_i what
      rw [what, Option.some.inj recorded]
    · cases recorded

/-- A handler that rests for longer than its route allows. -/
def slow : Router :=
  .make ⟨{}, ⟨[], 8017⟩, HeaderName.requestId⟩
    [{ path := "/slow", timeout := some (.ofSeconds 1),
       handler := Handler.afterActs [.rest 2000] (Handler.status Status.ok) }]

example : (records (slow.dispatch ⟨some .info⟩ {} {} { target := .origin ⟨"/slow", none⟩ }).events).map
    (fun record => (record.headline, record.entry.fields.map Prod.fst)) =
      [((.warn, "handler deadline elapsed"), ["route", "timeout_ms"]),
        ((.error, "response"), ["response_code", "response_message", "response_status", "response_time",
          "response_duration", "response_data"]),
        ((.info, "request completed"), ["response_code", "duration_ms", "timed_out"])] :=
  rfl

end Router

end ServiceHost
