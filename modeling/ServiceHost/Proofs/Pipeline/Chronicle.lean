import ServiceHost.Proofs.Pipeline.Station

/-!
Chronicles: all that a run does, in order and with the millisecond of each deed. A run is an onion. Its
chronicle is what the stages do with the request, the outermost first, and then what they do with what comes
back from the rest of the chain, the innermost first; and what is observed of the run and the context that it
leaves are those of its chronicle.
-/

namespace ServiceHost

open Http Log

/-- What a run does. -/
inductive Deed where
  /-- The first of some stages gets the request, or the handler if there is none. -/
  | enters (stages : List Stage)
  /-- The first of some stages gets a response back from the others and the handler. -/
  | leaves (stages : List Stage)
  | shows (what : Happening)
  | changes (change : Context → Context)

/-- A deed that a process does itself. -/
inductive Deed.IsAct : Deed → Prop where
  | note (label : String) : IsAct (.shows (.note label))
  | record (record : Record) : IsAct (.shows (.record record))
  | change (change : Context → Context) : IsAct (.changes change)

/-- A deed at a millisecond. -/
structure Moment where
  time : Nat
  deed : Deed

namespace Moment

/-- The event of a moment, if something is observed at it. -/
def event? (moment : Moment) : Option Event :=
  match moment.deed with
  | .shows what => some ⟨moment.time, what⟩
  | _ => none

/-- The moment of an event. -/
def ofEvent (event : Event) : Moment := ⟨event.time, .shows event.what⟩

/-- The context behind a moment. -/
def context (context : Context) (moment : Moment) : Context :=
  match moment.deed with
  | .changes change => change context
  | _ => context

/-- Does the moment leave the context alone? -/
def isSteady (moment : Moment) : Bool :=
  match moment.deed with
  | .changes _ => false
  | _ => true

end Moment

/-- All that a run does, in order. -/
abbrev Chronicle := List Moment

namespace Chronicle

/-- What is observed. -/
def events (chronicle : Chronicle) : List Event :=
  chronicle.filterMap Moment.event?

/-- The context that is left. -/
def context (chronicle : Chronicle) (context : Context) : Context :=
  chronicle.foldl Moment.context context

variable {chronicle other : Chronicle} {moment : Moment} {start : Context}

@[simp] theorem events_nil : events [] = [] := rfl

@[simp] theorem events_append : events (chronicle ++ other) = events chronicle ++ events other :=
  List.filterMap_append

theorem events_cons : events (moment :: chronicle) = moment.event?.toList ++ events chronicle := by
  rw [events, List.filterMap_cons]
  cases moment.event? <;> rfl

@[simp] theorem events_ofEvents (shown : List Event) : events (shown.map Moment.ofEvent) = shown := by
  rw [events, List.filterMap_map]
  exact List.filterMap_some

theorem events_steady : events (chronicle.filter Moment.isSteady) = events chronicle := by
  rw [events, List.filterMap_filter, events]
  congr 1
  funext moment
  obtain ⟨time, deed⟩ := moment
  cases deed <;> rfl

@[simp] theorem context_nil : context [] start = start := rfl

@[simp] theorem context_cons : context (moment :: chronicle) start = context chronicle (moment.context start) :=
  rfl

@[simp] theorem context_append : context (chronicle ++ other) start = context other (context chronicle start) :=
  List.foldl_append

/-- Where all moments leave the context alone, it stays. -/
theorem context_of_steady (steady : ∀ moment ∈ chronicle, moment.isSteady) : context chronicle start = start := by
  induction chronicle generalizing start with
  | nil => rfl
  | cons moment chronicle inductionHypothesis =>
    rw [List.forall_mem_cons] at steady
    rw [context_cons, inductionHypothesis steady.2]
    obtain ⟨time, deed⟩ := moment
    cases deed with
    | changes change => cases steady.1
    | enters | leaves | shows => rfl

@[simp] theorem context_ofEvents (shown : List Event) : context (shown.map Moment.ofEvent) start = start := by
  refine context_of_steady fun moment member => ?_
  obtain ⟨event, _, rfl⟩ := List.mem_map.mp member
  rfl

end Chronicle

section Runs

variable {α : Type} {scene : Scene} {acts : List Act} {process : Process α} {now : Nat} {context : Context}

/-- What a scene does that performs acts. -/
def Scene.deeds (scene : Scene) : List Act → Nat → Chronicle
  | [], _ => []
  | .note label :: acts, now => ⟨now, .shows (.note label)⟩ :: scene.deeds acts now
  | .log entry :: acts, now => (scene.logged now entry).map Moment.ofEvent ++ scene.deeds acts now
  | .change change :: acts, now => ⟨now, .changes change⟩ :: scene.deeds acts now
  | .rest millis :: acts, now =>
    if scene.allows (now + millis) then scene.deeds acts (now + millis) else []

theorem Scene.exists_record_of_mem_logged {entry : Entry} {event : Event} (member : event ∈ scene.logged now entry) :
    ∃ record, event = ⟨now, .record record⟩ := by
  obtain ⟨record, _, rfl⟩ := List.mem_map.mp member
  exact ⟨record, rfl⟩

theorem Scene.exists_record_of_mem_loggedAll {entries : List Entry} {event : Event}
    (member : event ∈ scene.loggedAll now entries) : ∃ record, event = ⟨now, .record record⟩ := by
  obtain ⟨entry, _, inside⟩ := List.mem_flatMap.mp member
  exact exists_record_of_mem_logged inside

/-- Whatever is done within a process is an act of it. -/
theorem Scene.isAct_of_mem_deeds : ∀ moment ∈ scene.deeds acts now, moment.deed.IsAct := by
  induction acts generalizing now with
  | nil => exact List.forall_mem_nil _
  | cons act acts inductionHypothesis =>
    cases act with
    | note label => exact List.forall_mem_cons.mpr ⟨.note label, inductionHypothesis⟩
    | log entry =>
      refine List.forall_mem_append.mpr ⟨List.forall_mem_map.mpr fun event logged => ?_, inductionHypothesis⟩
      obtain ⟨record, rfl⟩ := exists_record_of_mem_logged logged
      exact .record record
    | change change => exact List.forall_mem_cons.mpr ⟨.change change, inductionHypothesis⟩
    | rest millis =>
      rw [deeds]
      split
      · exact inductionHypothesis
      · exact List.forall_mem_nil _

theorem Scene.events_perform :
    (scene.perform acts now context).events = Chronicle.events (scene.deeds acts now) := by
  induction acts generalizing now context with
  | nil => rfl
  | cons act acts inductionHypothesis =>
    cases act with
    | note label => exact congrArg (_ :: ·) inductionHypothesis
    | log entry =>
      rw [deeds, Chronicle.events_append, Chronicle.events_ofEvents]
      exact congrArg (_ ++ ·) inductionHypothesis
    | change change => exact inductionHypothesis
    | rest millis =>
      rw [perform, deeds]
      split
      · exact inductionHypothesis
      · rfl

theorem Scene.context_perform :
    (scene.perform acts now context).context = Chronicle.context (scene.deeds acts now) context := by
  induction acts generalizing now context with
  | nil => rfl
  | cons act acts inductionHypothesis =>
    cases act with
    | note label => exact inductionHypothesis
    | log entry =>
      rw [deeds, Chronicle.context_append, Chronicle.context_ofEvents]
      exact inductionHypothesis
    | change change => exact inductionHypothesis
    | rest millis =>
      rw [perform, deeds]
      split
      · exact inductionHypothesis
      · rfl

/-- A run ends where its acts do, and only its outcome tells more. -/
theorem Scene.run_eq : scene.run process now context =
    { scene.perform process.acts now context with outcome := (scene.run process now context).outcome } := by
  unfold run Course.andThen
  cases (scene.perform process.acts now context).outcome with
  | returned value => cases process.result <;> simp [Course.precede, Course.returned]
  | panicked panic => rfl
  | cut => rfl

theorem Scene.events_run :
    (scene.run process now context).events = Chronicle.events (scene.deeds process.acts now) := by
  rw [run_eq, events_perform]

theorem Scene.context_run :
    (scene.run process now context).context = Chronicle.context (scene.deeds process.acts now) context := by
  rw [run_eq, context_perform]

end Runs

namespace Station

variable {args : RouteArgs} {handler : Handler} {station next : Station} {rest : List Stage}
  {stage : CallerStage} {limit : Duration}

/-- The station to which a run goes on, if it does. -/
def next? (station : Station) (args : RouteArgs) : Option Station :=
  match station.stages with
  | [] => none
  | .caller stage :: rest =>
    match (station.entered args stage rest).outcome with
    | .returned (.proceed request _) => some (station.behind args stage rest request)
    | _ => none
  | .logging :: rest => some (station.recorded args rest)
  | .timeout limit :: rest => some (station.limited limit rest)
  | .instrument :: rest => some (station.measured rest)

theorem inward_of_next? (goesOn : station.next? args = some next) : Inward args station next := by
  unfold next? at goesOn
  cases stages : station.stages with
  | nil => simp [stages] at goesOn
  | cons stage rest =>
    rw [stages] at goesOn
    cases stage with
    | caller stage =>
      cases outcome : (station.entered args stage rest).outcome with
      | returned verdict =>
        cases verdict with
        | answer response => simp [outcome] at goesOn
        | proceed request after =>
          simp only [outcome, Option.some.injEq] at goesOn
          exact goesOn ▸ .caller stages outcome
      | panicked panic => simp [outcome] at goesOn
      | cut => simp [outcome] at goesOn
    | logging =>
      obtain rfl := Option.some.inj goesOn
      exact .logging stages
    | timeout limit =>
      obtain rfl := Option.some.inj goesOn
      exact .timeout stages
    | instrument =>
      obtain rfl := Option.some.inj goesOn
      exact .instrument stages

/-- The steps of a run are those that its stations determine. -/
theorem inward_iff : Inward args station next ↔ station.next? args = some next := by
  refine ⟨fun inward => ?_, inward_of_next?⟩
  unfold next?
  cases inward with
  | caller first proceeds => simp [first, proceeds]
  | logging first => simp [first]
  | timeout first => simp [first]
  | instrument first => simp [first]

/-- The stations of a run, the outermost first. -/
def path (args : RouteArgs) (station : Station) : List Station :=
  match _ : station.next? args with
  | none => [station]
  | some next => station :: path args next
termination_by station.stages.length
decreasing_by
  rename_i goesOn
  obtain ⟨stage, stages⟩ := (inward_of_next? goesOn).stages_eq
  simp [stages]

theorem path_of_none (ends : station.next? args = none) : station.path args = [station] := by
  rw [path]
  split <;> simp_all

theorem path_of_some (goesOn : station.next? args = some next) :
    station.path args = station :: next.path args := by
  rw [path]
  split <;> simp_all

/-- The dump that the recording stage makes of a request, under a capture that shows it. -/
def dump? (station : Station) (args : RouteArgs) (rest : List Stage) : Option String :=
  if station.scene.capture.debugging then
    some (args.redactor (RequestDump.render (station.recorded args rest).request))
  else none

/-- What the first stage of a station does with the request, or the handler, which has a context of its own. -/
def entering (station : Station) (args : RouteArgs) (handler : Handler) : Chronicle :=
  ⟨station.now, .enters station.stages⟩ ::
    match station.stages with
    | [] =>
      (station.scene.deeds (handler ⟨station.scene.world, station.context, station.request⟩).acts
        station.now).filter Moment.isSteady
    | .caller stage :: rest =>
      station.scene.deeds
        (stage.enter ⟨station.scene.world, args, rest.head?.map Stage.name, station.context,
          station.request⟩).acts station.now
    | .logging :: rest => [⟨station.now, .changes (·.withTraceId (station.traceId args rest))⟩]
    | .timeout _ :: _ => []
    | .instrument :: _ => [⟨station.now, .shows .began⟩]

/-- What a stage of the caller does with a response, where it passed the request on. -/
def after (station : Station) (args : RouteArgs) (stage : CallerStage) (rest : List Stage) :
    Context → Response → Process Response :=
  match (station.entered args stage rest).outcome with
  | .returned (.proceed _ after) => after
  | _ => fun _ response => Process.done response

/-- What the first stage of a station makes of the course of the others and the handler. -/
def back (station : Station) (args : RouteArgs) (inner : Course Response) : Course Response :=
  match station.stages with
  | [] => inner
  | .caller stage :: rest =>
    inner.andThen fun response now context =>
      station.scene.run (station.after args stage rest context response) now context
  | .logging :: rest =>
    inner.andThen fun response finish context =>
      let response := tagResponse args.traceHeader (station.traceId args rest) response
      (Course.returned response finish context).precede
        ((station.recorded args rest).scene.logged finish
          (completionEntry (station.dump? args rest) (finish - station.now) response))
  | .timeout limit :: _ =>
    if station.scene.allows (station.now + limit.timerMillis) then station.scene.expire args limit inner
    else inner
  | .instrument :: _ => inner.follow [⟨inner.finish, .ended args.endpoint (inner.answered station.now)⟩]

/-- What the first stage of a station does once the others and the handler ended. -/
def leaving (station : Station) (args : RouteArgs) (inner : Course Response) : Chronicle :=
  match station.stages, inner.outcome with
  | .caller stage :: rest, .returned response =>
    ⟨inner.finish, .leaves station.stages⟩ ::
      station.scene.deeds (station.after args stage rest inner.context response).acts inner.finish
  | .logging :: rest, .returned response =>
    ⟨inner.finish, .leaves station.stages⟩ ::
      ((station.recorded args rest).scene.logged inner.finish
        (completionEntry (station.dump? args rest) (inner.finish - station.now)
          (tagResponse args.traceHeader (station.traceId args rest) response))).map Moment.ofEvent
  | .timeout _ :: _, .returned _ => [⟨inner.finish, .leaves station.stages⟩]
  | .timeout limit :: _, .cut =>
    if station.scene.allows (station.now + limit.timerMillis) then
      (station.scene.loggedAll inner.finish
        (deadlineEntry args limit ::
          (deadlineAnswer station.scene.world.clock inner.context).entries)).map Moment.ofEvent
    else []
  | .instrument :: _, .returned _ =>
    [⟨inner.finish, .leaves station.stages⟩,
      ⟨inner.finish, .shows (.ended args.endpoint (inner.answered station.now))⟩]
  | .instrument :: _, _ => [⟨inner.finish, .shows (.ended args.endpoint (inner.answered station.now))⟩]
  | _, _ => []

/-- What the first stage of a station does once the run came back to it. -/
def returning (station : Station) (args : RouteArgs) (handler : Handler) : Chronicle :=
  match station.next? args with
  | none => []
  | some next => station.leaving args (next.course args handler)

/-- All that a run does from a station on. -/
def chronicle (station : Station) (args : RouteArgs) (handler : Handler) : Chronicle :=
  (station.path args).flatMap (·.entering args handler) ++
    (station.path args).reverse.flatMap (·.returning args handler)

theorem chronicle_of_none (ends : station.next? args = none) :
    station.chronicle args handler = station.entering args handler := by
  simp [chronicle, path_of_none ends, returning, ends]

theorem chronicle_of_some (goesOn : station.next? args = some next) :
    station.chronicle args handler = station.entering args handler ++
      (next.chronicle args handler ++ station.leaving args (next.course args handler)) := by
  simp [chronicle, path_of_some goesOn, returning, goesOn]

/-- The course from a station on is what its first stage makes of the course from the next one. -/
theorem course_of_some (goesOn : station.next? args = some next) :
    station.course args handler =
      (station.back args (next.course args handler)).precede
        (Chronicle.events (station.entering args handler)) := by
  cases inward_of_next? goesOn with
  | @caller stage rest request after first proceeds =>
    have events : (station.entered args stage rest).events =
        Chronicle.events (station.entering args handler) := by
      rw [entering, first]
      exact Scene.events_run
    have after_eq : station.after args stage rest = after := by rw [Station.after, proceeds]
    rw [course_caller first, Course.andThen, proceeds, back, first, ← events]
    simp only [after_eq]
    rfl
  | logging first =>
    rw [course, first, runChain, back, entering, first]
    rfl
  | timeout first =>
    rw [course_timeout first, back, entering, first]
    rfl
  | instrument first =>
    rw [course_instrument first, back, entering, first]
    rfl

/-- What comes of the others stays as it is, and what the first stage does is added behind it. -/
theorem events_context_back (station : Station) (args : RouteArgs) (inner : Course Response) :
    (station.back args inner).events = inner.events ++ Chronicle.events (station.leaving args inner) ∧
      (station.back args inner).context = Chronicle.context (station.leaving args inner) inner.context := by
  unfold back leaving
  cases stages : station.stages with
  | nil => simp
  | cons stage rest =>
    cases stage with
    | caller stage =>
      cases outcome : inner.outcome with
      | returned response =>
        simp [Course.andThen, outcome, Chronicle.events_cons, Moment.event?, Moment.context,
          Scene.events_run, Scene.context_run, Course.precede]
      | panicked panic => simp [Course.andThen, outcome]
      | cut => simp [Course.andThen, outcome]
    | logging =>
      cases outcome : inner.outcome with
      | returned response =>
        simp [Course.andThen, outcome, Chronicle.events_cons, Moment.event?, Moment.context, Course.precede,
          Course.returned]
      | panicked panic => simp [Course.andThen, outcome]
      | cut => simp [Course.andThen, outcome]
    | timeout limit =>
      by_cases allowed : station.scene.allows (station.now + limit.timerMillis)
      · cases outcome : inner.outcome <;>
          simp [allowed, Scene.expire, outcome, Chronicle.events_cons, Moment.event?, Moment.context]
      · cases outcome : inner.outcome <;>
          simp [allowed, Chronicle.events_cons, Moment.event?, Moment.context]
    | instrument =>
      cases outcome : inner.outcome <;>
        simp [Course.follow, Chronicle.events_cons, Moment.event?, Moment.context]

/-- Where a run goes on, its first stage leaves the context to the next one as it made it. -/
theorem context_next (goesOn : station.next? args = some next) :
    next.context = Chronicle.context (station.entering args handler) station.context := by
  cases inward_of_next? goesOn with
  | caller first proceeds =>
    rw [entering, first]
    exact Scene.context_run
  | logging first =>
    rw [entering, first]
    rfl
  | timeout first =>
    rw [entering, first]
    rfl
  | instrument first =>
    rw [entering, first]
    rfl

/-- Where a run does not go on, what its first stage or the handler does is all. -/
theorem events_context_of_none (ends : station.next? args = none) :
    (station.course args handler).events = Chronicle.events (station.entering args handler) ∧
      (station.course args handler).context =
        Chronicle.context (station.entering args handler) station.context := by
  cases stages : station.stages with
  | nil =>
    rw [course_handler stages, entering, stages]
    constructor
    · rw [Chronicle.events_cons, Chronicle.events_steady]
      exact Scene.events_run
    · rw [Chronicle.context_cons, Chronicle.context_of_steady fun moment member => (List.mem_filter.mp member).2]
      rfl
  | cons stage rest =>
    cases stage with
    | caller stage =>
      have events : (station.entered args stage rest).events =
          Chronicle.events (station.entering args handler) := by
        rw [entering, stages]
        exact Scene.events_run
      have context : (station.entered args stage rest).context =
          Chronicle.context (station.entering args handler) station.context := by
        rw [entering, stages]
        exact Scene.context_run
      rw [course_caller stages, ← events, ← context]
      simp only [next?, stages] at ends
      cases outcome : (station.entered args stage rest).outcome with
      | returned verdict =>
        cases verdict with
        | answer response => simp [Course.andThen, outcome, Course.precede, Course.returned]
        | proceed request after => simp [outcome] at ends
      | panicked panic => simp [Course.andThen, outcome]
      | cut => simp [Course.andThen, outcome]
    | logging | timeout limit | instrument => simp [next?, stages] at ends

/-- What is observed of a run and the context that it leaves are those of its chronicle. -/
theorem events_context_course (station : Station) :
    (station.course args handler).events = Chronicle.events (station.chronicle args handler) ∧
      (station.course args handler).context =
        Chronicle.context (station.chronicle args handler) station.context := by
  induction station using inward_induction args with
  | step station inductionHypothesis =>
  cases goesOn : station.next? args with
  | none =>
    rw [chronicle_of_none goesOn]
    exact events_context_of_none goesOn
  | some next =>
    obtain ⟨events, context⟩ := inductionHypothesis next (inward_of_next? goesOn)
    obtain ⟨behind, left⟩ := events_context_back station args (next.course args handler)
    rw [course_of_some goesOn, chronicle_of_some goesOn]
    constructor
    · rw [Course.events_precede, behind, events, Chronicle.events_append, Chronicle.events_append]
    · rw [Course.precede, left, context, context_next goesOn, Chronicle.context_append,
        Chronicle.context_append]

end Station

end ServiceHost
