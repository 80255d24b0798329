import ServiceHost.Proofs.Envelope.Enclosed
import ServiceHost.Proofs.Pipeline.Containment

/-!
Answers of the runtime: where neither handlers of the application stand in place of the built-in ones nor stages of
the caller lie around them, every answer that the runtime gives by itself is one in the envelope, whether no route
matched, a default route answered, a deadline elapsed, or a panic was recovered.
-/

namespace ServiceHost

open Http Log

variable {may : Status → Envelope.Payload → Prop} {fields : List Field} {args : RouteArgs} {handler : Handler}
  {capture : Capture} {status : Status} {payload : Envelope.Payload}

/-! ### Built-in handlers -/

/-- A handler panics, or it answers at its end through the envelope with a status and a payload that it may have. -/
def Handler.AnswersAs (handler : Handler) (may : Status → Envelope.Payload → Prop) : Prop :=
  ∀ call, (∃ panic, (handler call).result = .error panic) ∨ ∃ acts status payload, may status payload ∧
    handler call = (Envelope.send call.world.clock call.context status payload).process.after acts

namespace Handler

theorem answersAs_answer (allowed : may status payload) : (answer status payload).AnswersAs may :=
  fun _ => .inr ⟨[], status, payload, allowed, rfl⟩

/-- The statuses and payloads of the answers that the runtime gives to a request which a route matches. -/
def IsRoutine (status : Status) (payload : Envelope.Payload) : Prop :=
  status ≠ Status.methodNotAllowed ∧ ∀ content, payload ≠ .xml content

theorem isRoutine_status (other : status ≠ Status.methodNotAllowed) : IsRoutine status .status :=
  ⟨other, fun _ same => nomatch same⟩

theorem isRoutine_text (content : String) (other : status ≠ Status.methodNotAllowed) :
    IsRoutine status (.text content) :=
  ⟨other, fun _ same => nomatch same⟩

theorem isRoutine_json (content : Json) (other : status ≠ Status.methodNotAllowed) :
    IsRoutine status (.json content) :=
  ⟨other, fun _ same => nomatch same⟩

/-- Whatever the provider of the address does, the route of the address answers as it should. -/
theorem answersAs_publicIp (provider : Option PublicIp.Provider) : (publicIp provider).AnswersAs IsRoutine := by
  intro call
  cases ended : (provider.getD call.world.publicIp).result with
  | error panic =>
    left
    exact ⟨panic, by rw [publicIp, Process.andThen, ended]⟩
  | ok result =>
    right
    cases result with
    | ok address =>
      refine ⟨(provider.getD call.world.publicIp).acts, Status.ok, .text address, isRoutine_text _ (by decide), ?_⟩
      rw [publicIp, Process.andThen, ended]
      rfl
    | error error =>
      refine ⟨(provider.getD call.world.publicIp).acts ++ [.log (lookupEntry call.context error)],
        Status.failedDependency, .status, isRoutine_status (by decide), ?_⟩
      rw [publicIp, Process.andThen, ended]
      simp [Process.after, Handler.status, answer]

theorem answersAs_figures (figures : Option Json) : (Profiling.figuresAnswer figures).AnswersAs IsRoutine := by
  cases figures with
  | none => exact answersAs_answer (isRoutine_status (by decide))
  | some content => exact answersAs_answer (isRoutine_json content (by decide))

theorem answersAs_profiling : Profiling.handler.AnswersAs IsRoutine := by
  intro call
  unfold Profiling.handler
  split
  · exact answersAs_answer (isRoutine_json _ (by decide)) call
  · exact answersAs_figures _ call
  · exact answersAs_figures _ call
  · exact answersAs_answer (isRoutine_text _ (by decide)) call
  · exact answersAs_answer (isRoutine_json _ (by decide)) call
  · exact answersAs_answer (isRoutine_status (by decide)) call

/-- Every built-in handler of a default route panics or answers through the envelope. -/
theorem answersAs_builtin (config : Config) (listing : List RouteInfo) (route : DefaultRoute) :
    (route.builtin config listing).AnswersAs IsRoutine := by
  cases route with
  | index => exact answersAs_answer (isRoutine_json _ (by decide))
  | ip => exact answersAs_publicIp _
  | ping | status => exact answersAs_answer (isRoutine_status (by decide))
  | metrics => exact answersAs_answer (isRoutine_status (by decide))
  | pprof => exact answersAs_profiling

end Handler

/-! ### Chains -/

/-- A course ends with a panic, or with an answer in the envelope that it may have. -/
def Course.AnswersAs (course : Course Response) (capture : Capture) (may : Status → Envelope.Payload → Prop)
    (more : List Field) : Prop :=
  (∃ panic, course.outcome = .panicked panic) ∨
    ∃ status payload, may status payload ∧ course.Encloses capture status payload more

namespace Station

variable {station target : Station} {rest : List Stage} {limit : Duration}

/-- The stages that may lie behind the recording one: at most a deadline. -/
inductive IsInner : List Stage → Prop where
  | handler : IsInner []
  | deadline (limit : Duration) : IsInner [.timeout limit]

/-- The deadline at a station elapses: it comes before the one around it, and it cuts what runs inside it. -/
def Elapses (station : Station) (args : RouteArgs) (handler : Handler) : Prop :=
  ∃ limit rest, station.stages = .timeout limit :: rest ∧ station.scene.allows (station.now + limit.timerMillis) ∧
    ((station.limited limit rest).course args handler).outcome = .cut

/-- A deadline that elapses answers through the envelope, whatever was sent before it. -/
theorem encloses_of_elapses (elapses : station.Elapses args handler) :
    (station.course args handler).Encloses station.scene.capture Status.serviceUnavailable (.text "timeout") [] := by
  obtain ⟨limit, rest, first, allowed, cut⟩ := elapses
  rw [course_timeout first, if_pos allowed]
  exact Scene.encloses_expire station.scene args limit cut

theorem capture_limited : (station.limited limit rest).scene.capture = station.scene.capture := by
  unfold limited Scene.within
  split <;> rfl

/-- At the handler a run is cut, or it goes as the handler does. -/
theorem cut_or_answersAs (none : station.stages = []) (answers : handler.AnswersAs may) :
    (station.course args handler).outcome = .cut ∨
      (station.course args handler).AnswersAs station.scene.capture may [] := by
  rw [course_handler none]
  rcases answers ⟨station.scene.world, station.context, station.request⟩ with
    ⟨panic, panics⟩ | ⟨acts, status, payload, allowed, process_eq⟩
  · exact (Scene.panicked_run station.scene _ station.now station.context panics).imp_right
      fun panicked => .inl ⟨panic, panicked⟩
  · rw [process_eq]
    refine (Scene.encloses_run station.scene acts station.now station.context station.context
      station.scene.world.clock status payload).imp_right fun encloses => .inr ⟨status, payload, allowed, ?_⟩
    exact ⟨encloses.answer, encloses.record⟩

/-- Without a deadline around it, a chain of at most a deadline goes as its handler does, or the deadline answers. -/
theorem answersAs_inner (inner : IsInner station.stages) (endless : station.scene.deadline = none)
    (answers : handler.AnswersAs may) (late : may Status.serviceUnavailable (.text "timeout")) :
    (station.course args handler).AnswersAs station.scene.capture may [] := by
  generalize stages : station.stages = shape at inner
  cases inner with
  | handler => exact (cut_or_answersAs stages answers).resolve_left (uncut_course endless)
  | deadline limit =>
    have allowed : station.scene.allows (station.now + limit.timerMillis) := by simp [Scene.allows, endless]
    by_cases cut : ((station.limited limit []).course args handler).outcome = .cut
    · exact .inr ⟨_, _, late, encloses_of_elapses ⟨limit, [], stages, allowed, cut⟩⟩
    · have inside := (cut_or_answersAs rfl answers).resolve_left cut
      rw [course_timeout stages, if_pos allowed, Scene.expire_of_uncut cut]
      rwa [capture_limited] at inside

/-- Nothing but the recording stage changes the context. -/
theorem context_inner (inner : IsInner station.stages) :
    (station.course args handler).context = station.context := by
  generalize stages : station.stages = shape at inner
  cases inner with
  | handler => rw [course_handler stages]
  | deadline limit =>
    have inside : ((station.limited limit []).course args handler).context = station.context := by
      rw [course_handler rfl]
      rfl
    rw [course_timeout stages]
    split
    · rcases station.scene.expire_cases args limit ((station.limited limit []).course args handler) with
        ⟨_, stays⟩ | ⟨response, entries, answered⟩
      · rw [stays, inside]
      · rw [answered, inside]
    · exact inside

/-- The deadline of an inner chain is at its outset. -/
theorem eq_of_elapses (inner : IsInner station.stages) (reaches : Reaches args station target)
    (elapses : target.Elapses args handler) : target = station := by
  obtain ⟨limit, rest, first, _⟩ := elapses
  rcases reaches.cases_head with same | ⟨next, inward, further⟩
  · exact same.symm
  · obtain ⟨stage, stages⟩ := inward.stages_eq
    have suffix := Reaches.suffix_stages further
    generalize station.stages = shape at inner stages
    cases inner with
    | handler => cases stages
    | deadline other =>
      obtain ⟨_, none⟩ := List.cons.inj stages
      rw [← none, first, List.suffix_nil] at suffix
      cases suffix

/-- How the recording stage frames a chain: the station behind it, and the fields that it adds to answers. -/
inductive Framed (args : RouteArgs) (station : Station) : Station → List Field → Prop where
  | bare (inner : IsInner station.stages) (unknown : station.context.traceId = none) : Framed args station station []
  | recorded {rest : List Stage} {value : HeaderValue} (first : station.stages = .logging :: rest)
      (inner : IsInner rest) (stands : value.StandsFor (station.traceId args rest)) :
      Framed args station (station.recorded args rest) [(args.traceHeader, value)]

namespace Framed

variable {inside : Station}

theorem isInner (framed : Framed args station inside fields) : IsInner inside.stages := by
  cases framed with
  | bare inner _ => exact inner
  | recorded _ inner _ => exact inner

theorem capture_eq (framed : Framed args station inside fields) :
    inside.scene.capture = station.scene.capture ∧ inside.scene.deadline = station.scene.deadline := by
  cases framed <;> exact ⟨rfl, rfl⟩

/-- Behind the recording stage of a chain without anything else lies the handler. -/
theorem stages_eq_nil (framed : Framed args station inside fields)
    (only : station.stages = [] ∨ station.stages = [.logging]) : inside.stages = [] := by
  cases framed with
  | bare inner _ =>
    refine only.resolve_right fun single => ?_
    rw [single] at inner
    cases inner
  | recorded first =>
    rcases only with none | single
    · cases first.symm.trans none
    · exact (List.cons.inj (first.symm.trans single)).2

/-- The deadline of the chain is that of its inner part. -/
theorem eq_of_elapses (framed : Framed args station inside fields) (reaches : Reaches args station target)
    (elapses : target.Elapses args handler) : target = inside := by
  cases framed with
  | bare inner _ => exact Station.eq_of_elapses inner reaches elapses
  | @recorded rest value first inner stands =>
    rcases reaches.cases_head with rfl | ⟨next, inward, further⟩
    · obtain ⟨limit, others, timed, _⟩ := elapses
      rw [first] at timed
      cases timed
    · cases inward with
      | caller here | timeout here | instrument here =>
        rw [first] at here
        cases here
      | logging here =>
        rw [first] at here
        cases here
        exact Station.eq_of_elapses inner further elapses

/-- The fields of the frame come behind those of an answer of the inner part. -/
theorem encloses (framed : Framed args station inside fields) (other : args.traceHeader ∉ Envelope.names)
    (encloses : (inside.course args handler).Encloses station.scene.capture status payload []) :
    (station.course args handler).Encloses station.scene.capture status payload fields := by
  cases framed with
  | bare => exact encloses
  | @recorded rest value first inner stands =>
    obtain ⟨dump, course_eq⟩ := course_logging handler first
    rw [course_eq]
    exact encloses.recorded (station.recorded args rest).scene other stands dump station.now

/-- The chain panics as its inner part does. -/
theorem panicked (framed : Framed args station inside fields) {panic : Panic}
    (panicked : (inside.course args handler).outcome = .panicked panic) :
    (station.course args handler).outcome = .panicked panic := by
  cases framed with
  | bare => exact panicked
  | recorded first =>
    obtain ⟨dump, course_eq⟩ := course_logging handler first
    rw [course_eq, Course.andThen, panicked]

/-- Where the chain panics, the context still tells the field of the frame. -/
theorem restoreTrace (framed : Framed args station inside fields) (other : args.traceHeader ∉ Envelope.names)
    {panic : Panic} (panicked : (station.course args handler).outcome = .panicked panic) {response : Response}
    (answers : response.IsAnswer status payload []) :
    (Router.restoreTrace args (station.course args handler).context response).IsAnswer status payload fields := by
  cases framed with
  | bare inner unknown =>
    have silent : (station.course args handler).context.traceText.isEmpty := by
      rw [context_inner inner, Context.traceText, unknown]
      rfl
    rwa [Router.restoreTrace, if_pos silent]
  | @recorded rest value first inner stands =>
    have context_eq : (station.course args handler).context.traceText = station.traceId args rest := by
      obtain ⟨dump, course_eq⟩ := course_logging handler first
      have inside : ((station.recorded args rest).course args handler).context =
          (station.recorded args rest).context := context_inner inner
      rw [course_eq] at panicked ⊢
      cases outcome : ((station.recorded args rest).course args handler).outcome with
      | returned response => simp [Course.andThen, outcome, Course.precede, Course.returned] at panicked
      | panicked panic =>
        simp only [Course.andThen, outcome, inside]
        rfl
      | cut => simp [Course.andThen, outcome] at panicked
    have known : ¬(station.traceId args rest).isEmpty := by simpa using stands.isTraceId.nonempty
    rw [Router.restoreTrace, context_eq, if_neg known, tagResponse, stands.writes]
    exact answers.setHeader other (by simp) value

end Framed

end Station

namespace Router

/-- Nothing of the application stands in place of what the runtime does by itself: no handler of its own and no stage
of the caller. The trace header has a name that the envelope does not use. -/
structure IsPlain (config : Config) (routes : List Route) : Prop where
  overrides : ∀ route, config.options.overrides route = none
  notFound : config.options.notFound = none
  methodNotAllowed : config.options.methodNotAllowed = none
  panicHandler : config.options.panicHandler = none
  shared : config.options.stages = []
  own : ∀ route ∈ routes, route.stages = []
  apart : config.traceHeader ∉ Envelope.names
  unlisted : config.traceHeader ≠ HeaderName.allow

variable {config : Config} {routes : List Route} {world : World} {context : Context} {request : Request}

/-- The runtime itself answers a request: no route answers it, a built-in handler does, a deadline elapses, or the chain
of the route panics. -/
inductive AnswersItself (router : Router) (capture : Capture) (world : World) (context : Context)
    (request : Request) : Prop where
  | notFound (lost : Routing.resolve router.table request.method request.target.path = .notFound)
  | notAllowed {methods : List Method}
      (told : Routing.resolve router.table request.method request.target.path = .notAllowed methods)
  | builtin {listing : List RouteInfo} {kind : DefaultRoute} {parameters : Parameters}
      (enabled : kind ∈ router.config.defaultRoutes)
      (found : Routing.resolve router.table request.method request.target.path =
        .found (router.entry (router.config.defaultRoute listing kind)) parameters)
  | elapsed {station : Station}
      (reaches : Station.Reaches (router.pipeline request).args (router.outset capture world context request) station)
      (elapses : station.Elapses (router.pipeline request).args (router.pipeline request).handler)
  | panicked {panic : Panic} (raised : (router.chain capture world context request).outcome = .panicked panic)

/-- A dispatch ends with an answer in the envelope. -/
structure Enveloped (router : Router) (capture : Capture) (world : World) (context : Context) (request : Request)
    (status : Status) (payload : Envelope.Payload) : Prop where
  answered : (router.dispatch capture world context request).response.status = status
  body : (router.dispatch capture world context request).response.body = Bytes.ofString payload.content
  /-- The payload is a text, JSON or nothing. -/
  plain : ∀ content, payload ≠ .xml content
  /-- The headers are those of the envelope, with the trace id if the pipeline has the recording stage and with the
  methods of the path if the status says so. -/
  headers : ∃ trace methods : Option HeaderValue,
    (router.dispatch capture world context request).response.headers.fields = Envelope.fields payload ++
      (trace.map fun value => (router.config.traceHeader, value)).toList ++
        (methods.map fun value => (HeaderName.allow, value)).toList ∧
    (trace.isSome ↔ Stage.logging ∈ (router.pipeline request).stages) ∧
    (∀ value ∈ trace, value.StandsFor (router.traceId world request (router.pipeline request).stages.tail)) ∧
    (methods.isSome ↔ status = Status.methodNotAllowed)
  /-- Where debugging is captured, the last record of an answer tells of this one. -/
  recorded : capture.keeps .debug →
    EndsWithAnswer (records (router.dispatch capture world context request).events) status payload

/-- Without stages of the caller a pipeline has at most the recording stage and a deadline. -/
theorem exists_inner {assembly : Assembly} (shared : assembly.shared = []) (own : assembly.own = []) :
    ∃ inner, Station.IsInner inner ∧ (assembly.stages = inner ∨ assembly.stages = .logging :: inner) := by
  obtain ⟨inner, isInner, inner_eq⟩ : ∃ inner, Station.IsInner inner ∧
      (if assembly.timeout.isZero then [] else [.timeout assembly.timeout]) = inner := by
    split
    · exact ⟨_, .handler, rfl⟩
    · exact ⟨_, .deadline _, rfl⟩
  refine ⟨inner, isInner, ?_⟩
  rw [Assembly.stages, shared, own, inner_eq, List.append_nil, List.append_nil]
  cases assembly.logging
  · exact .inl rfl
  · exact .inr rfl

theorem exists_inner_pipeline (plain : IsPlain config routes) (request : Request) :
    ∃ inner, Station.IsInner inner ∧ (((make config routes).pipeline request).stages = inner ∨
      ((make config routes).pipeline request).stages = .logging :: inner) := by
  unfold pipeline
  split
  · rename_i entry _ found
    obtain ⟨route, member, rfl⟩ := List.mem_map.mp (Routing.mem_of_resolveFrom found)
    have own : route.stages = [] := by
      obtain default | bound := List.mem_append.mp member
      · obtain ⟨kind, _, rfl⟩ := List.mem_map.mp default
        rfl
      · exact plain.own route bound
    exact exists_inner plain.shared own
  · exact exists_inner rfl rfl
  · exact exists_inner rfl rfl

theorem isTraceId_traceId (router : Router) (world : World) (request : Request) (inner : List Stage) :
    IsTraceId (router.traceId world request inner) := by
  rw [traceId]
  cases found : request.traceId? router.config.traceHeader with
  | none => exact isTraceId_timedId ..
  | some traceId => exact isTraceId_of_traceId? found

/-- How the recording stage frames the chain of a request, whose context arrives without a trace id. -/
theorem exists_framed (plain : IsPlain config routes) (arrived : context.traceId = none) (capture : Capture)
    (world : World) (request : Request) :
    let router := make config routes
    ∃ inside, ∃ trace : Option HeaderValue,
      Station.Framed (router.pipeline request).args (router.outset capture world context request) inside
        (trace.map fun value => (config.traceHeader, value)).toList ∧
      (trace.isSome ↔ Stage.logging ∈ (router.pipeline request).stages) ∧
      ∀ value ∈ trace, value.StandsFor (router.traceId world request (router.pipeline request).stages.tail) := by
  intro router
  have header : (router.pipeline request).args.traceHeader = config.traceHeader := traceHeader_pipeline
  obtain ⟨inner, isInner, stages | stages⟩ := exists_inner_pipeline plain request
  · have unknown : (router.outset capture world context request).context.traceId = none := by
      show (router.arrival context request).traceId = none
      unfold arrival
      split <;> exact arrived
    have absent : Stage.logging ∉ (router.pipeline request).stages := by
      rw [stages]
      cases isInner <;> simp
    have bare : Station.IsInner (router.outset capture world context request).stages := by
      show Station.IsInner (router.pipeline request).stages
      rwa [stages]
    exact ⟨_, none, .bare bare unknown, by simpa using absent, by simp⟩
  · have traceId_eq : (router.outset capture world context request).traceId (router.pipeline request).args inner =
        router.traceId world request inner := by
      rw [Station.traceId, header]
      rfl
    have tail : (router.pipeline request).stages.tail = inner := by rw [stages, List.tail_cons]
    have present : Stage.logging ∈ (router.pipeline request).stages := by rw [stages]; exact List.mem_cons_self
    obtain ⟨value, stands⟩ := (isTraceId_traceId router world request inner).exists_standsFor
    have framed : Station.Framed (router.pipeline request).args (router.outset capture world context request) _ _ :=
      .recorded stages isInner (traceId_eq ▸ stands)
    rw [header] at framed
    exact ⟨_, some value, framed, by simpa using present, by simpa [tail] using stands⟩

theorem traceHeader_notMem (plain : IsPlain config routes) (request : Request) :
    ((make config routes).pipeline request).args.traceHeader ∉ Envelope.names := by
  rw [traceHeader_pipeline]
  exact plain.apart

/-- Whatever answers a request that the runtime answers itself, but for the one whose method no route has. -/
theorem answersAs_chain (plain : IsPlain config routes) {inside : Station}
    (framed : Station.Framed ((make config routes).pipeline request).args
      ((make config routes).outset capture world context request) inside fields)
    (found : ∀ methods, Routing.resolve (make config routes).table request.method request.target.path ≠
      .notAllowed methods)
    (itself : (make config routes).AnswersItself capture world context request) :
    ((make config routes).chain capture world context request).AnswersAs capture Handler.IsRoutine fields := by
  have other := traceHeader_notMem plain request
  have captured : inside.scene.capture = capture := framed.capture_eq.1
  have late : Handler.IsRoutine Status.serviceUnavailable (.text "timeout") := Handler.isRoutine_text _ (by decide)
  -- The answer of the handler, or of a deadline that lies around it, gets the fields of the frame.
  have answered (answers : ((make config routes).pipeline request).handler.AnswersAs Handler.IsRoutine) :
      ((make config routes).chain capture world context request).AnswersAs capture Handler.IsRoutine fields := by
    rcases Station.answersAs_inner framed.isInner framed.capture_eq.2 answers late with
      ⟨panic, panicked⟩ | ⟨status, payload, allowed, encloses⟩
    · exact .inl ⟨panic, framed.panicked panicked⟩
    · exact .inr ⟨status, payload, allowed, framed.encloses other (captured ▸ encloses)⟩
  cases itself with
  | notFound lost =>
    apply answered
    have handler : ((make config routes).pipeline request).handler = Handler.status Status.notFound := by
      rw [pipeline, lost]
      show config.options.notFound.getD (Handler.status Status.notFound) = _
      rw [plain.notFound, Option.getD_none]
    rw [handler]
    exact Handler.answersAs_answer (Handler.isRoutine_status (by decide))
  | notAllowed told => exact absurd told (found _)
  | @builtin listing kind parameters enabled here =>
    apply answered
    have handler : ((make config routes).pipeline request).handler = kind.builtin config listing := by
      rw [pipeline, here]
      show (config.options.overrides kind).getD (kind.builtin config listing) = _
      rw [plain.overrides, Option.getD_none]
    rw [handler]
    exact Handler.answersAs_builtin config listing kind
  | elapsed reaches elapses =>
    have encloses := Station.encloses_of_elapses elapses
    rw [framed.eq_of_elapses reaches elapses] at encloses
    exact .inr ⟨_, _, late, framed.encloses other (captured ▸ encloses)⟩
  | panicked raised => exact .inl ⟨_, raised⟩

/-- No deadline lies around a fallback. -/
theorem stages_methodNotAllowed (config : Config) :
    config.methodNotAllowedPipeline.stages = [] ∨ config.methodNotAllowedPipeline.stages = [.logging] := by
  rw [Config.methodNotAllowedPipeline, Config.fallbackPipeline]
  show Assembly.stages _ = [] ∨ Assembly.stages _ = [.logging]
  cases quiet : config.options.loggerDisabled
  · exact .inr rfl
  · exact .inl rfl

/-- Where no route has the method of the request, the fallback answers within the frame. -/
theorem encloses_chain (plain : IsPlain config routes) {inside : Station}
    (framed : Station.Framed ((make config routes).pipeline request).args
      ((make config routes).outset capture world context request) inside fields) {methods : List Method}
    (told : Routing.resolve (make config routes).table request.method request.target.path = .notAllowed methods) :
    ((make config routes).chain capture world context request).Encloses capture Status.methodNotAllowed .status
      fields := by
  have pipeline_eq : (make config routes).pipeline request = config.methodNotAllowedPipeline := by
    rw [pipeline, told]
    rfl
  have handler : ((make config routes).pipeline request).handler = Handler.status Status.methodNotAllowed := by
    rw [pipeline_eq]
    show config.options.methodNotAllowed.getD (Handler.status Status.methodNotAllowed) = _
    rw [plain.methodNotAllowed, Option.getD_none]
  have none : inside.stages = [] := by
    apply framed.stages_eq_nil
    show ((make config routes).pipeline request).stages = [] ∨ ((make config routes).pipeline request).stages = _
    rw [pipeline_eq]
    exact stages_methodNotAllowed config
  have inner : (inside.course ((make config routes).pipeline request).args
      ((make config routes).pipeline request).handler).Encloses inside.scene.capture Status.methodNotAllowed .status
        [] := by
    have uncut : (inside.course ((make config routes).pipeline request).args
        ((make config routes).pipeline request).handler).outcome ≠ .cut := Station.uncut_course framed.capture_eq.2
    rw [Station.course_handler none, handler] at uncut ⊢
    have ran := (Scene.encloses_run inside.scene [] inside.now inside.context inside.context inside.scene.world.clock
      Status.methodNotAllowed .status).resolve_left uncut
    exact ⟨ran.answer, ran.record⟩
  rw [framed.capture_eq.1] at inner
  exact framed.encloses (traceHeader_notMem plain request) inner

/-- The run of a request that the runtime answers itself ends with an answer in the envelope, which says that the
method is not allowed exactly where no route has it. -/
theorem exists_encloses_run (plain : IsPlain config routes) {inside : Station}
    (framed : Station.Framed ((make config routes).pipeline request).args
      ((make config routes).outset capture world context request) inside fields)
    (itself : (make config routes).AnswersItself capture world context request) :
    let router := make config routes
    ∃ status payload, (∀ content, payload ≠ .xml content) ∧
      (status = Status.methodNotAllowed ↔
        ∃ methods, Routing.resolve router.table request.method request.target.path = .notAllowed methods) ∧
      (router.run (router.pipeline request) { capture, world } 0 (router.arrival context request) request).Encloses
        capture status payload fields := by
  intro router
  have calm {response : Response} (returned : (router.chain capture world context request).outcome =
      .returned response) :
      router.run (router.pipeline request) { capture, world } 0 (router.arrival context request) request =
        router.chain capture world context request := run_of_returned returned
  by_cases told : ∃ methods,
      Routing.resolve router.table request.method request.target.path = .notAllowed methods
  · obtain ⟨methods, here⟩ := told
    have encloses := encloses_chain plain framed here
    obtain ⟨response, returned, _⟩ := encloses.answer
    refine ⟨Status.methodNotAllowed, .status, by simp, iff_of_true rfl ⟨methods, here⟩, ?_⟩
    rwa [calm returned]
  · rcases answersAs_chain plain framed (not_exists.mp told) itself with
      ⟨panic, panicked⟩ | ⟨status, payload, ⟨other, noXml⟩, encloses⟩
    · have ran : router.run (router.pipeline request) { capture, world } 0 (router.arrival context request) request =
          router.recover (router.pipeline request).args { capture, world } request
            (router.chain capture world context request) panic := run_of_panicked panicked
      refine ⟨Status.internalServerError, .status, by simp, iff_of_false (by decide) told, ?_⟩
      rw [ran]
      exact encloses_recover router plain.panicHandler _ { capture, world } _ _ _ fun response answers =>
        framed.restoreTrace (traceHeader_notMem plain request) panicked answers
    · obtain ⟨response, returned, _⟩ := encloses.answer
      refine ⟨status, payload, noXml, iff_of_false other told, ?_⟩
      rwa [calm returned]

/-- The methods of a path are told behind all other fields, where no route has the method of the request. -/
theorem exists_isAnswer_closing (router : Router) (request : Request) {response : Response}
    (answers : response.IsAnswer status payload fields) (new : ∀ field ∈ fields, field.1 ≠ HeaderName.allow) :
    ∃ methods : Option HeaderValue,
      (router.closing request response).IsAnswer status payload
        (fields ++ (methods.map fun value => (HeaderName.allow, value)).toList) ∧
      (methods.isSome ↔
        ∃ methods, Routing.resolve router.table request.method request.target.path = .notAllowed methods) := by
  unfold closing
  cases resolved : Routing.resolve router.table request.method request.target.path with
  | notAllowed methods =>
    obtain ⟨value, announced⟩ := answers.announce new methods
    exact ⟨some value, announced, by simp⟩
  | found | notFound =>
    refine ⟨none, ?_, by simp⟩
    simpa using answers

/-- Every answer that the runtime gives by itself is one in the envelope. -/
theorem answers_enveloped (plain : IsPlain config routes) (arrived : context.traceId = none)
    (itself : (make config routes).AnswersItself capture world context request) :
    ∃ status payload, (make config routes).Enveloped capture world context request status payload := by
  obtain ⟨inside, trace, framed, tagged, stands⟩ := exists_framed plain arrived capture world request
  obtain ⟨status, payload, noXml, told, ⟨response, returned, answers⟩, record⟩ :=
    exists_encloses_run plain framed itself
  have unlisted : ∀ field ∈ (trace.map fun value => (config.traceHeader, value)).toList,
      field.1 ≠ HeaderName.allow := by
    simp only [Option.mem_toList, Option.map_eq_some_iff]
    rintro _ ⟨value, _, rfl⟩
    exact plain.unlisted
  obtain ⟨methods, closed, listed⟩ := exists_isAnswer_closing (make config routes) request answers unlisted
  have course_eq := course_of_returned returned
  refine ⟨status, payload, ?_, ?_, noXml, ⟨trace, methods, ?_, tagged, stands, listed.trans told.symm⟩, ?_⟩ <;>
    simp only [dispatch, course_eq, Course.dispatch]
  · exact closed.status
  · exact closed.body
  · rw [closed.headers, List.append_assoc]
    rfl
  · exact record

/-- A route that answers, but does not end before its deadline. -/
def lingering : Route where
  path := "/a"
  handler call := (Handler.text Status.ok "done" call).andThen fun response =>
    (Process.done response).after [.rest 70000]

theorem answers_enveloped_lingering :
    ∃ status payload, (make ⟨{}, ⟨[], 8017⟩, HeaderName.requestId⟩ [lingering]).Enveloped ⟨some .debug⟩ {} {}
      broughtAlong status payload := by
  refine answers_enveloped ⟨fun _ => rfl, rfl, rfl, rfl, rfl, ?_, by decide, by decide⟩ rfl
    (.elapsed (.single (.logging rfl)) ⟨.ofSeconds 60, [], rfl, rfl, rfl⟩)
  simp [lingering]

/-- What was sent before the deadline is on record, but the last record is that of the answer that went out. -/
example : ((records ((make ⟨{}, ⟨[], 8017⟩, HeaderName.requestId⟩ [lingering]).dispatch ⟨some .debug⟩ {} {}
      broughtAlong).events).filter (·.entry.message = "response")).map (·.field? "response_code") =
    [some (.number 200), some (.number 503)] := by
  rfl

end Router

end ServiceHost
