import ServiceHost.CallerStages
import ServiceHost.Proofs.Pipeline.Station
import ServiceHost.Proofs.Trace.TraceId

/-!
Traces through a chain: behind the recording stage every station has the trace id in its context, in the
trace header of its request and in the spans around it, as long as the stages of the caller leave the id
and the header alone.
-/

namespace ServiceHost

open Http Log

/-- The innermost span around a record that names a trace id names this one. -/
def Log.Record.InTrace (traceId : String) (record : Record) : Prop :=
  (record.spans.flatMap Span.fields).reverse.lookup "trace_id" = some (.text traceId)

/-- An entry names no trace id itself but this one. -/
def Log.Entry.NamesNoOther (traceId : String) (entry : Entry) : Prop :=
  ∀ value, entry.fields.reverse.lookup "trace_id" = some value → value = .text traceId

variable {traceId : String} {value : HeaderValue} {args : RouteArgs} {handler : Handler}

/-- Unless an entry names another trace id itself, its record has the one of its spans. -/
theorem Log.Record.InTrace.field? {record : Record} (inTrace : record.InTrace traceId)
    (noOther : record.entry.NamesNoOther traceId) : record.field? "trace_id" = some (.text traceId) := by
  rw [Record.field?, Record.fields, List.reverse_append, List.lookup_append]
  cases own : record.entry.fields.reverse.lookup "trace_id" with
  | none => exact inTrace
  | some value => rw [noOther value own, Option.some_or]

/-- The innermost span decides. -/
theorem Log.Record.inTrace_of_last {capture : Capture} {spans : List Span} {span : Span} {entry : Entry}
    (kept : capture.keeps span.level)
    (names : span.fields.reverse.lookup "trace_id" = some (.text traceId)) :
    Record.InTrace traceId ⟨capture.spans (spans ++ [span]), entry⟩ := by
  have innermost : capture.spans (spans ++ [span]) = capture.spans spans ++ [span] := by
    simp [Capture.spans, kept]
  rw [Record.InTrace, innermost, List.flatMap_append, List.reverse_append, List.lookup_append,
    List.flatMap_singleton, names, Option.some_or]

namespace Station

/-- The stage of the caller at a station, if there is one, leaves the trace id of the context and the
trace header of the request alone, both on the way to the handler and on the way back. -/
structure LeavesTrace (station : Station) (args : RouteArgs) (handler : Handler) : Prop where
  entering {stage : CallerStage} {rest : List Stage} (first : station.stages = .caller stage :: rest) :
    (station.entered args stage rest).context.traceId = station.context.traceId
  passing {stage : CallerStage} {rest : List Stage} {request : Request}
    {after : Context → Response → Process Response} (first : station.stages = .caller stage :: rest)
    (proceeds : (station.entered args stage rest).outcome = .returned (.proceed request after)) :
    request.headers.values args.traceHeader = station.request.headers.values args.traceHeader
  leaving {stage : CallerStage} {rest : List Stage} {request : Request}
    {after : Context → Response → Process Response} {response : Response}
    (first : station.stages = .caller stage :: rest)
    (proceeds : (station.entered args stage rest).outcome = .returned (.proceed request after)) :
    let inner := (station.behind args stage rest request).course args handler
    inner.outcome = .returned response →
      (station.scene.run (after inner.context response) inner.finish inner.context).context.traceId =
        inner.context.traceId

/-- A station has the trace id, and its value is the only one in the trace header. Under its capture the
spans show the id, if they are shown at all. -/
structure Carries (station : Station) (args : RouteArgs) (capture : Capture) (traceId : String)
    (value : HeaderValue) : Prop where
  captured : station.scene.capture = capture
  context : station.context.traceId = some traceId
  header : station.request.headers.values args.traceHeader = [value]
  records : capture.keeps .info → station.scene.RecordsOnly (Record.InTrace traceId)

variable {station next : Station} {rest : List Stage} {limit : Duration} {capture : Capture}

/-- Behind a recording stage that finds or makes a trace id, the station has the id. -/
theorem carries_recorded (stands : value.StandsFor traceId) (found : station.traceId args rest = traceId) :
    (station.recorded args rest).Carries args station.scene.capture traceId value where
  captured := rfl
  context := by rw [recorded, found]; rfl
  header := by
    rw [recorded, found]
    exact stands.values_tagRequest
  records := by
    rw [recorded, found]
    intro info entry _
    exact Record.inTrace_of_last info rfl

theorem Carries.traceId_eq (carries : station.Carries args capture traceId value) (stands : value.StandsFor traceId) :
    station.traceId args rest = traceId := by
  rw [Station.traceId, stands.traceId? carries.header, Option.getD_some]

/-- What one stage leaves alone the next one has. -/
theorem Carries.inward (carries : station.Carries args capture traceId value) (stands : value.StandsFor traceId)
    (leaves : station.LeavesTrace args handler) (inward : Inward args station next) :
    next.Carries args capture traceId value := by
  cases inward with
  | caller first proceeds =>
    exact ⟨carries.captured, (leaves.entering first).trans carries.context,
      (leaves.passing first proceeds).trans carries.header, carries.records⟩
  | logging first => exact carries.captured ▸ carries_recorded stands (carries.traceId_eq stands)
  | @timeout limit rest first =>
    have scene : (station.limited limit rest).scene.capture = station.scene.capture ∧
        (station.limited limit rest).scene.spans = station.scene.spans := by
      unfold limited Scene.within
      split <;> exact ⟨rfl, rfl⟩
    refine ⟨scene.1.trans carries.captured, carries.context, carries.header, fun info entry kept => ?_⟩
    rw [scene.1, scene.2]
    rw [scene.1] at kept
    exact carries.records info entry kept
  | instrument first => exact ⟨carries.captured, carries.context, carries.header, carries.records⟩

/-- Every station behind one that has the trace id has it. -/
theorem Carries.reaches (carries : station.Carries args capture traceId value) (stands : value.StandsFor traceId)
    (leaves : ∀ next, Reaches args station next → next.LeavesTrace args handler)
    (reaches : Reaches args station next) : next.Carries args capture traceId value := by
  induction reaches with
  | refl => exact carries
  | tail reaches inward inductionHypothesis => exact inductionHypothesis.inward stands (leaves _ reaches) inward

/-- The trace id is still in the context when the run from a station ends, however it ends. -/
theorem Carries.context_course (carries : station.Carries args capture traceId value)
    (stands : value.StandsFor traceId)
    (leaves : ∀ next, Reaches args station next → next.LeavesTrace args handler) :
    (station.course args handler).context.traceId = some traceId := by
  induction station using inward_induction args with
  | step station inductionHypothesis =>
  have here := leaves station .refl
  have behind (next : Station) (inward : Inward args station next) :
      (next.course args handler).context.traceId = some traceId :=
    inductionHypothesis next inward (carries.inward stands here inward)
      fun last reaches => leaves last (.head inward reaches)
  cases stages : station.stages with
  | nil =>
    rw [course_handler stages]
    exact carries.context
  | cons stage rest =>
    cases stage with
    | caller stage =>
      rw [course_caller stages]
      have entered := (here.entering stages).trans carries.context
      refine Course.context_andThen (·.traceId = some traceId) entered
        fun verdict outcome => ?_
      cases verdict with
      | answer response => exact entered
      | proceed request after =>
        have inner := behind _ (.caller stages outcome)
        exact Course.context_andThen (·.traceId = some traceId) inner
          fun response returned => (here.leaving stages outcome returned).trans inner
    | logging =>
      obtain ⟨dump, course_eq⟩ := course_logging handler stages
      rw [course_eq]
      have inner := behind _ (.logging stages)
      exact Course.context_andThen (·.traceId = some traceId) inner
        fun _ _ => inner
    | timeout limit =>
      have inner := behind _ (.timeout stages)
      rw [course_timeout stages]
      split
      · rcases station.scene.expire_cases args limit ((station.limited limit rest).course args handler) with
          ⟨_, stays⟩ | ⟨response, entries, answers⟩
        · rwa [stays]
        · rwa [answers]
      · exact inner
    | instrument =>
      rw [course_instrument stages]
      exact behind _ (.instrument stages)

end Station

/-- A process leaves the trace id of every context alone. -/
def Process.LeavesTraceId {α : Type} (process : Process α) : Prop :=
  ∀ change, Act.change change ∈ process.acts → ∀ context, (change context).traceId = context.traceId

theorem Scene.traceId_perform {scene : Scene} {acts : List Act} {now : Nat} {context : Context}
    (leaves : ∀ change, Act.change change ∈ acts → ∀ context, (change context).traceId = context.traceId) :
    (scene.perform acts now context).context.traceId = context.traceId := by
  induction acts generalizing now context with
  | nil => rfl
  | cons act acts inductionHypothesis =>
    have later := fun change member => leaves change (List.mem_cons_of_mem act member)
    cases act with
    | note | log => exact inductionHypothesis later
    | change change => exact (inductionHypothesis later).trans (leaves change List.mem_cons_self context)
    | rest millis =>
      unfold Scene.perform
      split
      · exact inductionHypothesis later
      · rfl

theorem Scene.traceId_run {α : Type} {scene : Scene} {process : Process α} {now : Nat} {context : Context}
    (leaves : process.LeavesTraceId) : (scene.run process now context).context.traceId = context.traceId := by
  refine Course.context_andThen (·.traceId = context.traceId) (traceId_perform leaves) fun _ _ => ?_
  cases process.result <;> exact traceId_perform leaves

/-- What a process that was run returned is its result. -/
theorem Scene.result_of_run {α : Type} {scene : Scene} {process : Process α} {now : Nat} {context : Context}
    {value : α} (returned : (scene.run process now context).outcome = .returned value) :
    process.result = .ok value := by
  unfold Scene.run Course.andThen at returned
  cases performed : (scene.perform process.acts now context).outcome <;> rw [performed] at returned
  case returned =>
    cases result : process.result <;> rw [result] at returned <;> cases returned
    rfl
  all_goals cases returned

/-- A stage of the caller leaves the trace id and the trace header alone wherever it stands. -/
structure CallerStage.LeavesTrace (stage : CallerStage) : Prop where
  entering (visit : Visit) : (stage.enter visit).LeavesTraceId
  passing {visit : Visit} {request : Request} {after : Context → Response → Process Response}
    (proceeds : (stage.enter visit).result = .ok (.proceed request after)) :
    request.headers.values visit.args.traceHeader = visit.request.headers.values visit.args.traceHeader
  leaving {visit : Visit} {request : Request} {after : Context → Response → Process Response}
    (proceeds : (stage.enter visit).result = .ok (.proceed request after)) (context : Context)
    (response : Response) : (after context response).LeavesTraceId

namespace Station

variable {station next : Station}

theorem Inward.suffix_stages (inward : Inward args station next) : next.stages <:+ station.stages := by
  obtain ⟨stage, stages⟩ := inward.stages_eq
  exact ⟨[stage], stages.symm⟩

theorem Reaches.suffix_stages (reaches : Reaches args station next) : next.stages <:+ station.stages := by
  induction reaches with
  | refl => exact List.suffix_rfl
  | tail _ inward inductionHypothesis => exact inward.suffix_stages.trans inductionHypothesis

/-- Where every stage of the caller leaves the trace alone wherever it stands, it is left alone behind a
station. -/
theorem leavesTrace_of_reaches (leaves : ∀ stage, .caller stage ∈ station.stages → stage.LeavesTrace)
    (reaches : Reaches args station next) : next.LeavesTrace args handler where
  entering first :=
    Scene.traceId_run ((leaves _ (reaches.suffix_stages.mem (first ▸ List.mem_cons_self))).entering _)
  passing first proceeds :=
    (leaves _ (reaches.suffix_stages.mem (first ▸ List.mem_cons_self))).passing (Scene.result_of_run proceeds)
  leaving first proceeds _ :=
    Scene.traceId_run <|
      (leaves _ (reaches.suffix_stages.mem (first ▸ List.mem_cons_self))).leaving
        (Scene.result_of_run proceeds) _ _

end Station

/-- A stage that passes the request on as it is leaves the trace alone if its acts do. -/
theorem CallerStage.leavesTrace_acting {name : String} {acts : Visit → List Act}
    {after : Context → Response → Process Response}
    (before : ∀ visit change, Act.change change ∈ acts visit → ∀ context,
      (change context).traceId = context.traceId)
    (behind : ∀ context response, (after context response).LeavesTraceId) :
    (acting name acts after).LeavesTrace where
  entering visit := by
    intro change member
    exact before visit change (by simpa [acting, Process.after, Process.done] using member)
  passing proceeds := by
    cases proceeds
    rfl
  leaving proceeds := by
    cases proceeds
    exact behind

end ServiceHost
