import ServiceHost.CallerStages
import ServiceHost.Handlers
import ServiceHost.Metrics.Passes
import ServiceHost.Proofs.Pipeline.Parallel
import ServiceHost.Proofs.Pipeline.Station
import ServiceHost.Proofs.Redaction.Queries

/-!
Secrecy: what the log shows of the value of a query parameter with a secret name. Two requests that differ in it
leave the same entries, dumps included, and the same spans but for the field in which a span shows the query as it
is.
-/

namespace ServiceHost

open Http Log

/-- The span without what it shows of the query. -/
def Log.Span.withoutQuery (span : Span) : Span :=
  { span with fields := span.fields.filter (·.1 != "request_query") }

/-- The record without what its spans show of the query. -/
def Log.Record.withoutQuery (record : Record) : Record :=
  { record with spans := record.spans.map Span.withoutQuery }

/-- The event without what the spans of a record show of the query. -/
def Event.withoutQuery (event : Event) : Event :=
  match event.what with
  | .record record => ⟨event.time, .record record.withoutQuery⟩
  | _ => event

/-- Some events are the same as others but for what spans show of the query. -/
def SameButQuery (events others : List Event) : Prop :=
  others.map Event.withoutQuery = events.map Event.withoutQuery

/-- Two scenes are the same but for what their spans show of the query. -/
structure Scene.SameButQuery (scene other : Scene) : Prop where
  capture : other.capture = scene.capture
  world : other.world = scene.world
  deadline : other.deadline = scene.deadline
  spans : other.spans.map Span.withoutQuery = scene.spans.map Span.withoutQuery

/-- A handler does not look at the value of a parameter with a secret name. -/
def Handler.IgnoresParameters (handler : Handler) : Prop :=
  ∀ (world : World) (context : Context) {first second : Request}, first.AlikeButParameter second →
    handler ⟨world, context, first⟩ = handler ⟨world, context, second⟩

/-- Two processes do the same and decide the same, but for the value of a parameter with a secret name in the
request that they pass on. -/
inductive Process.AlikeButParameter : Process Verdict → Process Verdict → Prop where
  | panics (acts : List Act) (panic : Panic) : AlikeButParameter ⟨acts, .error panic⟩ ⟨acts, .error panic⟩
  | answers (acts : List Act) (response : Response) :
      AlikeButParameter ⟨acts, .ok (.answer response)⟩ ⟨acts, .ok (.answer response)⟩
  | proceeds (acts : List Act) {first second : Request} (alike : first.AlikeButParameter second)
      (after : Context → Response → Process Response) :
      AlikeButParameter ⟨acts, .ok (.proceed first after)⟩ ⟨acts, .ok (.proceed second after)⟩

/-- A stage of the caller does not look at the value of a parameter with a secret name. -/
def CallerStage.IgnoresParameters (stage : CallerStage) : Prop :=
  ∀ (world : World) (args : RouteArgs) (following : Option String) (context : Context) {first second : Request},
    first.AlikeButParameter second →
      (stage.enter ⟨world, args, following, context, first⟩).AlikeButParameter
        (stage.enter ⟨world, args, following, context, second⟩)

/-- Neither the handler nor a stage of the caller looks at the value of a parameter with a secret name. -/
structure IgnoreParameters (handler : Handler) (stages : List Stage) : Prop where
  handler : handler.IgnoresParameters
  stage {stage : CallerStage} (present : .caller stage ∈ stages) : stage.IgnoresParameters

variable {scene other : Scene} {now : Nat} {context : Context} {first second : Request} {args : RouteArgs}
  {handler : Handler} {stages rest : List Stage}

/-! ### Requests -/

theorem Log.Span.withoutQuery_mk (name : String) (level : Level) (front back : Fields) (value : Value) :
    Span.withoutQuery ⟨name, level, front ++ ("request_query", value) :: back⟩ =
      ⟨name, level, (front ++ back).filter (·.1 != "request_query")⟩ := by
  simp [Span.withoutQuery]

namespace Http.Request.AlikeButParameter

theorem headerText?_eq (alike : first.AlikeButParameter second) (name : HeaderName) :
    second.headerText? name = first.headerText? name := by
  rw [Request.headerText?, Request.headerText?, alike.headers]

theorem traceId?_eq (alike : first.AlikeButParameter second) (traceHeader : HeaderName) :
    second.traceId? traceHeader = first.traceId? traceHeader := by
  rw [Request.traceId?, Request.traceId?, alike.headerText?_eq]

theorem setHeader (alike : first.AlikeButParameter second) (name : HeaderName) (value : HeaderValue) :
    (first.setHeader name value).AlikeButParameter (second.setHeader name value) where
  method := alike.method
  target := alike.target
  version := alike.version
  headers := by rw [Request.setHeader, Request.setHeader, alike.headers]
  body := alike.body

theorem tagRequest (alike : first.AlikeButParameter second) (traceHeader : HeaderName) (traceId : String) :
    (tagRequest traceHeader traceId first).AlikeButParameter (tagRequest traceHeader traceId second) := by
  unfold ServiceHost.tagRequest
  split
  · exact alike
  · exact alike.setHeader traceHeader _

/-- The spans of the two requests show the same but for the query. -/
theorem withoutQuery_requestSpan (alike : first.AlikeButParameter second) (clock : Timestamp) (traceId : String)
    (context : Context) :
    (requestSpan clock traceId context second).withoutQuery =
      (requestSpan clock traceId context first).withoutQuery := by
  have span (request : Request) : requestSpan clock traceId context request =
      ⟨"http_request", .info,
        [("trace_id", .text traceId), ("request_method", .text request.method.name),
          ("request_path", .text request.target.path)] ++
        ("request_query", .text (request.target.query.getD "")) ::
        [("request_remote_address", .text ((context.remote.map Net.Peer.render).getD "")),
          ("request_user_agent", .text ((request.headerText? HeaderName.userAgent).getD "")),
          ("request_x_forwarded_for", .text ((request.headerText? HeaderName.forwardedFor).getD "")),
          ("request_time", .instant clock 3)]⟩ := rfl
  rw [span, span, Span.withoutQuery_mk, Span.withoutQuery_mk, alike.method, alike.target.path_eq,
    alike.headerText?_eq, alike.headerText?_eq]

end Http.Request.AlikeButParameter

/-! ### Two runs -/

theorem Event.Joins.sameButQuery : Event.Joins SameButQuery where
  nil := rfl
  append front back := by
    rw [SameButQuery] at front back ⊢
    rw [List.map_append, List.map_append, front, back]
  unrecorded _ := rfl

namespace Scene.SameButQuery

theorem spans_filter {spans others : List Span} (capture : Capture)
    (same : others.map Span.withoutQuery = spans.map Span.withoutQuery) :
    (capture.spans others).map Span.withoutQuery = (capture.spans spans).map Span.withoutQuery := by
  -- A capture keeps a span for its level.
  have level (spans : List Span) :
      (capture.spans spans).map Span.withoutQuery = capture.spans (spans.map Span.withoutQuery) := by
    rw [Capture.spans, Capture.spans, List.filter_map]
    rfl
  rw [level, level, same]

theorem parallel (scenes : scene.SameButQuery other) : scene.Parallel ServiceHost.SameButQuery other where
  world := scenes.world
  deadline := scenes.deadline
  logged now entry := by
    have spans := spans_filter scene.capture scenes.spans
    rw [ServiceHost.SameButQuery, logged, logged, Capture.record?, Capture.record?, scenes.capture]
    split
    · simp [Event.withoutQuery, Record.withoutQuery, spans]
    · rfl

theorem within (scenes : scene.SameButQuery other) (own : Nat) :
    (scene.within own).SameButQuery (other.within own) := by
  unfold Scene.within
  rw [scenes.parallel.allows]
  split
  · exact ⟨scenes.capture, scenes.world, rfl, scenes.spans⟩
  · exact scenes

theorem measured (scenes : scene.SameButQuery other) : scene.measured.SameButQuery other.measured :=
  ⟨scenes.capture, scenes.parallel.measured.world, scenes.deadline, scenes.spans⟩

/-- Two scenes stay the same but for the query where two spans are opened that are. -/
theorem opening (scenes : scene.SameButQuery other) (spans : List Span) {span another : Span}
    (same : another.withoutQuery = span.withoutQuery) :
    Scene.SameButQuery { scene with spans := spans ++ [span] }
      { scene with spans := spans ++ [another], deadline := other.deadline } :=
  ⟨rfl, rfl, scenes.deadline, by simp [same]⟩

end Scene.SameButQuery

/-- Two runs of a chain that does not look at the value of a secret parameter go alike but for what spans show of
the query. -/
theorem sameButQuery_chain (redacts : args.redactor = Redaction.redact) (ignore : IgnoreParameters handler stages)
    (scenes : scene.SameButQuery other) (alike : first.AlikeButParameter second) :
    (runChain args handler stages scene now context first).Parallel SameButQuery
      (runChain args handler stages other now context second) := by
  induction stages generalizing scene other now context first second with
  | nil =>
    have handled : (scene.run (handler ⟨scene.world, context, first⟩) now context).Parallel SameButQuery
        (other.run (handler ⟨other.world, context, second⟩) now context) := by
      rw [scenes.world, ignore.handler scene.world context alike]
      exact scenes.parallel.run .sameButQuery _
    exact ⟨handled.outcome, handled.finish, rfl, handled.events⟩
  | cons stage rest inductionHypothesis =>
    have behind {scene other : Scene} (now : Nat) (context : Context) {first second : Request}
        (scenes : scene.SameButQuery other) (alike : first.AlikeButParameter second) :
        (runChain args handler rest scene now context first).Parallel SameButQuery
          (runChain args handler rest other now context second) :=
      inductionHypothesis ⟨ignore.handler, fun present => ignore.stage (List.mem_cons_of_mem _ present)⟩ scenes alike
    cases stage with
    | caller stage =>
      have decided := ignore.stage List.mem_cons_self scene.world args (rest.head?.map Stage.name) context alike
      unfold runChain
      rw [scenes.world, Scene.run_andThen, Scene.run_andThen]
      -- What the stage passes on may show the difference, and nothing else that it does.
      generalize stage.enter ⟨scene.world, args, rest.head?.map Stage.name, context, first⟩ = process at decided ⊢
      generalize stage.enter ⟨scene.world, args, rest.head?.map Stage.name, context, second⟩ = following
        at decided ⊢
      cases decided with
      | panics acts panic =>
        exact (scenes.parallel.perform .sameButQuery acts).andThen .sameButQuery fun _ _ _ => ⟨rfl, rfl, rfl, rfl⟩
      | answers acts response =>
        exact (scenes.parallel.perform .sameButQuery acts).andThen .sameButQuery fun _ _ _ => ⟨rfl, rfl, rfl, rfl⟩
      | proceeds acts alike after =>
        refine (scenes.parallel.perform .sameButQuery acts).andThen .sameButQuery fun _ now context => ?_
        exact (behind now context scenes alike).andThen .sameButQuery fun response now context =>
          scenes.parallel.run .sameButQuery (after context response)
    | logging =>
      obtain ⟨traceId, found⟩ : ∃ traceId, (first.traceId? args.traceHeader).getD
          (Text.timedId scene.world.clock (scene.world.random rest.length)) = traceId := ⟨_, rfl⟩
      have tagged := alike.tagRequest args.traceHeader traceId
      have dumps : args.redactor (RequestDump.render (tagRequest args.traceHeader traceId second)) =
          args.redactor (RequestDump.render (tagRequest args.traceHeader traceId first)) := by
        rw [redacts, Redaction.redact_render_parameter tagged]
      have recorded := scenes.opening args.span.toList
        (tagged.withoutQuery_requestSpan scene.world.clock traceId (context.withTraceId traceId))
      unfold runChain
      simp only [alike.traceId?_eq, scenes.world, scenes.capture, found, dumps]
      refine (behind _ _ recorded tagged).andThen .sameButQuery fun response finish context => ?_
      exact (Course.Parallel.returned .sameButQuery _).precede .sameButQuery (recorded.parallel.logged finish _)
    | timeout limit =>
      have inner := behind now context (scenes.within (now + limit.timerMillis)) alike
      unfold runChain
      simp only
      rw [scenes.parallel.allows]
      split
      · exact scenes.parallel.expire .sameButQuery args limit inner
      · exact inner
    | instrument => exact (behind now context scenes.measured alike).measured .sameButQuery now args.endpoint

/-- What spans show of the query is not in the entries of records. -/
theorem entries_withoutQuery (events : List Event) :
    (records (events.map Event.withoutQuery)).map Record.entry = (records events).map Record.entry := by
  rw [records, records, List.filterMap_map, List.map_filterMap, List.map_filterMap]
  congr 1
  funext event
  obtain ⟨time, what⟩ := event
  cases what <;> rfl

namespace Station

/-- What the recording stage makes known of two requests that reach it alike. -/
structure LogsAlike (station : Station) (args : RouteArgs) (handler : Handler) (rest : List Stage)
    (first second : Request) : Prop where
  /-- The spans in which everything behind the stage is recorded are the same but for the query. -/
  spans : ({ station with request := second }.recorded args rest).scene.spans.map Span.withoutQuery =
    ({ station with request := first }.recorded args rest).scene.spans.map Span.withoutQuery
  /-- The entries are the same, those of the stage with the dump of the request included. -/
  entries :
    (records (runChain args handler (.logging :: rest) station.scene station.now station.context
      second).events).map Record.entry =
    (records (runChain args handler (.logging :: rest) station.scene station.now station.context
      first).events).map Record.entry
  /-- The runs end alike, and everything that happens is the same but for what spans show of the query. -/
  course : (runChain args handler (.logging :: rest) station.scene station.now station.context first).Parallel
    SameButQuery (runChain args handler (.logging :: rest) station.scene station.now station.context second)

/-- Except for the field in which spans show the query, the log of two requests that differ in the value of a
parameter with a secret name is the same. -/
theorem logsAlike (station : Station) (redacts : args.redactor = Redaction.redact)
    (ignore : IgnoreParameters handler rest) (alike : first.AlikeButParameter second) :
    station.LogsAlike args handler rest first second := by
  have ignoreAll : IgnoreParameters handler (.logging :: rest) :=
    ⟨ignore.handler, fun present => ignore.stage ((List.mem_cons.mp present).resolve_left (by simp))⟩
  have scenes : station.scene.SameButQuery station.scene := ⟨rfl, rfl, rfl, rfl⟩
  have course : (runChain args handler (.logging :: rest) station.scene station.now station.context
      first).Parallel SameButQuery
        (runChain args handler (.logging :: rest) station.scene station.now station.context second) :=
    sameButQuery_chain redacts ignoreAll scenes alike
  constructor
  case spans =>
    have traceIds : { station with request := second }.traceId args rest =
        { station with request := first }.traceId args rest := by
      simp only [traceId, alike.traceId?_eq]
    have tagged := alike.tagRequest args.traceHeader ({ station with request := first }.traceId args rest)
    simp only [recorded, traceIds, List.map_append, List.map_singleton, tagged.withoutQuery_requestSpan]
  case entries => rw [← entries_withoutQuery, course.events, entries_withoutQuery]
  case course => exact course

end Station

/-- A request with a token between two other parameters. -/
def Http.Request.withToken (token : List Char) : Request where
  target := .origin ⟨"/hello",
    some (String.ofList ("user=bob&".toList ++ Redaction.Parameter.written "token".toList (token ++ "&page=2".toList)))⟩
  headers := { fields := [(HeaderName.requestId, ⟨Bytes.ofString "t-1", by decide⟩)] }

theorem Http.Request.alikeButParameter_withToken {token another : List Char} (valued : ∀ c ∈ token, isParameterChar c)
    (anotherValued : ∀ c ∈ another, isParameterChar c) :
    (withToken token).AlikeButParameter (withToken another) where
  method := rfl
  target := .origin (.intro (by decide) ((Redaction.secretName_iff (List.all_eq_true.mp (by decide))).mpr (by decide))
    valued anotherValued (by decide))
  version := rfl
  headers := rfl
  body := rfl

/-- A handler that answers every request alike and a stage that passes every request on look at no parameter. -/
theorem ignoreParameters_passing :
    IgnoreParameters (Handler.status Status.ok) [.instrument, .caller (CallerStage.passing "outer")] where
  handler _ _ _ _ _ := rfl
  stage present := by
    obtain rfl : _ = CallerStage.passing "outer" := by simpa using present
    intro _ _ _ _ _ _ alike
    exact .proceeds [] alike CallerStage.unchanged

/-- Neither an equals sign nor the start of another parameter's name in a token shows. -/
theorem Station.logsAlike_withToken :
    let args : RouteArgs := { path := "/hello" }
    let rest : List Stage := [.instrument, .caller (CallerStage.passing "outer")]
    let first := Request.withToken "s3cr3t".toList
    let second := Request.withToken "=?key=%26'b".toList
    let station : Station := ⟨.logging :: rest, { capture := ⟨some .debug⟩, world := {} }, 0, {}, first⟩
    args.redactor = Redaction.redact ∧ IgnoreParameters (Handler.status Status.ok) rest ∧
      first.AlikeButParameter second ∧ station.LogsAlike args (Handler.status Status.ok) rest first second := by
  intro args rest first second station
  have alike : first.AlikeButParameter second :=
    Request.alikeButParameter_withToken (List.all_eq_true.mp (by decide)) (List.all_eq_true.mp (by decide))
  exact ⟨rfl, ignoreParameters_passing, alike, station.logsAlike rfl ignoreParameters_passing alike⟩

/-- The spans show the query as it is, and so do all records in them. In the dump the part of a value behind a blank
beyond ASCII is left, which is legal in a query. -/
theorem Station.query_shown :
    let args : RouteArgs := { path := "/hello" }
    let rest : List Stage := [.instrument, .caller (CallerStage.passing "outer")]
    let first := Request.withToken "a".toList
    let second := Request.withToken "b".toList
    let station : Station := ⟨.logging :: rest, { capture := ⟨some .debug⟩, world := {} }, 0, {}, first⟩
    first.AlikeButParameter second ∧ IgnoreParameters (Handler.status Status.ok) rest ∧
      ({ station with request := second }.recorded args rest).scene.spans ≠
        ({ station with request := first }.recorded args rest).scene.spans ∧
      records (runChain args (Handler.status Status.ok) (.logging :: rest) station.scene station.now station.context
        second).events ≠
      records (runChain args (Handler.status Status.ok) (.logging :: rest) station.scene station.now station.context
        first).events ∧
      "a\u00A0b".toList.all (fun c => isQueryChar c && c != '&') ∧
      Redaction.redact (RequestDump.render (.withToken "a\u00A0b".toList)) ≠
        Redaction.redact (RequestDump.render first) := by
  intro args rest first second station
  have alike : first.AlikeButParameter second :=
    Request.alikeButParameter_withToken (List.all_eq_true.mp (by decide)) (List.all_eq_true.mp (by decide))
  refine ⟨alike, ignoreParameters_passing, ?_, ?_, ?_, ?_⟩
  · decide +kernel
  · decide +kernel
  · decide
  · decide +kernel

end ServiceHost
