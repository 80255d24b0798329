import ServiceHost.Proofs.Pipeline.Cut
import ServiceHost.Proofs.Pipeline.Onion
import ServiceHost.Proofs.Routing.Resolution

/-!
The containment of panics. A panic ends the chain at the process that raises it: nothing is done behind that process
save that open measured passes end, and what the panic handler gets is the context as everything done up to there
changed it. The same holds of every other way out of a chain, for a context is nowhere more than the changes made
before, and a handler, which has a copy, makes none.
-/

namespace ServiceHost

open Http Log

/-! ### Copies of the context -/

/-- Does the act leave the context alone? -/
def Act.isSteady : Act → Bool
  | .change _ => false
  | _ => true

/-- The handler that does the same save for the changes to its copy of the context. -/
def Handler.steady (handler : Handler) : Handler := fun call =>
  { handler call with acts := (handler call).acts.filter Act.isSteady }

section Copies

variable {α : Type}

/-- Apart from the context that they leave, acts do the same without the changes to it. -/
theorem Scene.perform_steady (scene : Scene) (acts : List Act) (now : Nat) (context other : Context) :
    (scene.perform (acts.filter Act.isSteady) now other).outcome = (scene.perform acts now context).outcome ∧
      (scene.perform (acts.filter Act.isSteady) now other).finish = (scene.perform acts now context).finish ∧
      (scene.perform (acts.filter Act.isSteady) now other).events = (scene.perform acts now context).events := by
  induction acts generalizing now context with
  | nil => exact ⟨rfl, rfl, rfl⟩
  | cons act acts inductionHypothesis =>
    cases act with
    | note | log =>
      obtain ⟨outcome, finish, events⟩ := inductionHypothesis now context
      exact ⟨outcome, finish, congrArg (_ ++ ·) events⟩
    | change change => exact inductionHypothesis now (change context)
    | rest millis =>
      rw [List.filter_cons_of_pos (by rfl)]
      unfold Scene.perform
      split
      · exact inductionHypothesis (now + millis) context
      · exact ⟨rfl, rfl, rfl⟩

theorem Scene.run_steady (scene : Scene) (process : Process α) (now : Nat) (context left : Context) :
    { scene.run { process with acts := process.acts.filter Act.isSteady } now context with context := left } =
      { scene.run process now context with context := left } := by
  obtain ⟨outcome, finish, events⟩ := scene.perform_steady process.acts now context context
  unfold run Course.andThen
  rw [outcome]
  cases (scene.perform process.acts now context).outcome with
  | returned value => cases process.result <;> simp [Course.precede, Course.returned, finish, events]
  | panicked panic => simp [finish, events]
  | cut => simp [finish, events]

end Copies

namespace Station

variable {args : RouteArgs} {handler : Handler} {station next visited : Station} {deeds : Chronicle} {panic : Panic}

/-- A run goes on inward from every station but the handler and the stages of the caller that refuse to. -/
theorem none_cases (ends : station.next? args = none) :
    station.stages = [] ∨ ∃ stage rest, station.stages = .caller stage :: rest ∧
      ∀ request after, (station.entered args stage rest).outcome ≠ .returned (.proceed request after) := by
  unfold next? at ends
  cases stages : station.stages with
  | nil => exact .inl rfl
  | cons stage rest =>
    cases stage with
    | caller stage =>
      refine .inr ⟨stage, rest, rfl, fun request after proceeds => ?_⟩
      simp [stages, proceeds] at ends
    | logging | timeout limit | instrument => simp [stages] at ends

/-- What a handler does to its copy of the context is seen nowhere. -/
theorem course_steady (station : Station) (args : RouteArgs) (handler : Handler) :
    station.course args handler.steady = station.course args handler := by
  induction station using inward_induction args with
  | step station inductionHypothesis =>
  cases goesOn : station.next? args with
  | some next =>
    have entering_eq : station.entering args handler.steady = station.entering args handler := by
      obtain ⟨stage, stages⟩ := (inward_of_next? goesOn).stages_eq
      rw [entering, entering, stages]
      cases stage <;> rfl
    rw [course_of_some goesOn, course_of_some goesOn, inductionHypothesis next (inward_of_next? goesOn), entering_eq]
  | none =>
    rcases none_cases goesOn with last | ⟨stage, rest, first, refuses⟩
    · rw [course_handler last, course_handler last]
      exact station.scene.run_steady (handler ⟨station.scene.world, station.context, station.request⟩) station.now
        station.context station.context
    · rw [course_caller first, course_caller first]
      unfold Course.andThen
      cases outcome : (station.entered args stage rest).outcome with
      | returned verdict =>
        cases verdict with
        | answer response => rfl
        | proceed request after => exact absurd outcome (refuses request after)
      | panicked panic => rfl
      | cut => rfl

/-! ### Where panics are raised -/

/-- A run visits the station where it starts and those that it visits from the next one on. -/
theorem mem_path_iff :
    visited ∈ station.path args ↔
      visited = station ∨ ∃ next, station.next? args = some next ∧ visited ∈ next.path args := by
  cases goesOn : station.next? args with
  | none => simp [path_of_none goesOn]
  | some next => simp [path_of_some goesOn]

/-- A panic is raised at a station behind some deeds: by the handler, by a stage before it passes the request on, or
by a stage that got the response back. -/
inductive Raises (station : Station) (args : RouteArgs) (handler : Handler) : Chronicle → Panic → Prop where
  | handler {panic : Panic} (last : station.stages = [])
      (panics : (station.scene.run (handler ⟨station.scene.world, station.context, station.request⟩) station.now
        station.context).outcome = .panicked panic) :
      Raises station args handler
        ((station.scene.deeds (handler ⟨station.scene.world, station.context, station.request⟩).acts
          station.now).filter Moment.isSteady) panic
  | before {stage : CallerStage} {rest : List Stage} {panic : Panic} (first : station.stages = .caller stage :: rest)
      (panics : (station.entered args stage rest).outcome = .panicked panic) :
      Raises station args handler
        (station.scene.deeds (stage.enter ⟨station.scene.world, args, rest.head?.map Stage.name, station.context,
          station.request⟩).acts station.now) panic
  | after {stage : CallerStage} {rest : List Stage} {next : Station} {response : Response} {panic : Panic}
      (first : station.stages = .caller stage :: rest) (goesOn : station.next? args = some next)
      (comesBack : (next.course args handler).outcome = .returned response)
      (panics : (station.scene.run (station.after args stage rest (next.course args handler).context response)
        (next.course args handler).finish (next.course args handler).context).outcome = .panicked panic) :
      Raises station args handler
        (station.scene.deeds (station.after args stage rest (next.course args handler).context response).acts
          (next.course args handler).finish) panic

/-- A station at which a panic is raised does nothing behind it. -/
theorem Raises.exists_front (raises : station.Raises args handler deeds panic) :
    ∃ front, station.chronicle args handler = front ++ deeds := by
  cases raises with
  | handler last panics =>
    have ends : station.next? args = none := by rw [next?, last]
    rw [chronicle_of_none ends, entering, last]
    exact ⟨[_], rfl⟩
  | before first panics =>
    have ends : station.next? args = none := by simp only [next?, first, panics]
    rw [chronicle_of_none ends, entering, first]
    exact ⟨[_], rfl⟩
  | after first goesOn comesBack panics =>
    rw [chronicle_of_some goesOn, leaving, first, comesBack]
    exact ⟨_ ++ (_ ++ [_]), by simp only [List.append_assoc]; rfl⟩

theorem Raises.panicked (raises : station.Raises args handler deeds panic) :
    (station.course args handler).outcome = .panicked panic := by
  cases raises with
  | handler last panics => rw [course_handler last, panics]
  | before first panics => rw [course_caller first, Course.andThen, panics]
  | after first goesOn comesBack panics =>
    rw [course_of_some goesOn, back, first]
    simp only [Course.precede, Course.andThen, comesBack]
    exact panics

/-- What a stage makes of a panic behind it is the panic, and save that a measured pass ends it does nothing. -/
theorem back_of_panicked (station : Station) (args : RouteArgs) {inner : Course Response}
    (panicked : inner.outcome = .panicked panic) :
    (station.back args inner).outcome = .panicked panic ∧
      ∀ moment ∈ station.leaving args inner, moment.deed = .shows (.ended args.endpoint none) := by
  unfold back leaving
  cases stages : station.stages with
  | nil => exact ⟨panicked, List.forall_mem_nil _⟩
  | cons stage rest =>
    rw [panicked]
    cases stage with
    | caller stage => exact ⟨by simp only [Course.andThen, panicked], List.forall_mem_nil _⟩
    | logging => exact ⟨by simp only [Course.andThen, panicked], List.forall_mem_nil _⟩
    | timeout limit =>
      refine ⟨?_, List.forall_mem_nil _⟩
      simp only
      split
      · rw [Scene.expire, panicked]
        exact panicked
      · exact panicked
    | instrument =>
      refine ⟨panicked, List.forall_mem_singleton.mpr ?_⟩
      simp only [Course.answered, panicked]

/-- The chain panics where a station raises a panic, and then nothing more is done but that measured passes end. -/
theorem course_of_raises (visits : visited ∈ station.path args) (raises : visited.Raises args handler deeds panic) :
    (station.course args handler).outcome = .panicked panic ∧
      ∃ front lost, station.chronicle args handler = front ++ deeds ++ lost ∧
        ∀ moment ∈ lost, moment.deed = .shows (.ended args.endpoint none) := by
  induction station using inward_induction args with
  | step station inductionHypothesis =>
  rcases mem_path_iff.mp visits with rfl | ⟨next, goesOn, inside⟩
  · obtain ⟨front, chronicle⟩ := raises.exists_front
    exact ⟨raises.panicked, front, [], by rw [chronicle, List.append_nil], List.forall_mem_nil _⟩
  · obtain ⟨panicked, front, lost, chronicle, measured⟩ := inductionHypothesis next (inward_of_next? goesOn) inside
    obtain ⟨goesOut, leaving⟩ := back_of_panicked station args panicked
    rw [course_of_some goesOn, chronicle_of_some goesOn, chronicle]
    exact ⟨goesOut, station.entering args handler ++ front, lost ++ station.leaving args (next.course args handler),
      by simp only [List.append_assoc], List.forall_mem_append.mpr ⟨measured, leaving⟩⟩

/-- A panic that a station lets out came from behind it or is raised there. -/
theorem panicked_or_raises (goesOn : station.next? args = some next)
    (panicked : (station.back args (next.course args handler)).outcome = .panicked panic) :
    (next.course args handler).outcome = .panicked panic ∨ ∃ deeds, station.Raises args handler deeds panic := by
  unfold back at panicked
  cases stages : station.stages with
  | nil =>
    rw [stages] at panicked
    exact .inl panicked
  | cons stage rest =>
    rw [stages] at panicked
    cases stage with
    | caller stage =>
      cases outcome : (next.course args handler).outcome with
      | returned response =>
        simp only [Course.andThen, outcome] at panicked
        exact .inr ⟨_, .after stages goesOn outcome panicked⟩
      | panicked raised =>
        simp only [Course.andThen, outcome] at panicked
        exact .inl panicked
      | cut => simp [Course.andThen, outcome] at panicked
    | logging =>
      cases outcome : (next.course args handler).outcome with
      | returned response => simp [Course.andThen, outcome, Course.precede, Course.returned] at panicked
      | panicked raised =>
        simp only [Course.andThen, outcome] at panicked
        exact .inl panicked
      | cut => simp [Course.andThen, outcome] at panicked
    | timeout limit =>
      simp only at panicked
      split at panicked
      · rcases station.scene.expire_cases args limit (next.course args handler) with
          ⟨_, stays⟩ | ⟨response, entries, answers⟩
        · exact .inl (stays ▸ panicked)
        · simp [answers] at panicked
      · exact .inl panicked
    | instrument => exact .inl panicked

/-- Where a run does not go on, a panic is raised at the station itself. -/
theorem raises_of_none (ends : station.next? args = none)
    (panicked : (station.course args handler).outcome = .panicked panic) :
    ∃ deeds, station.Raises args handler deeds panic := by
  rcases none_cases ends with last | ⟨stage, rest, first, refuses⟩
  · rw [course_handler last] at panicked
    exact ⟨_, .handler last panicked⟩
  · rw [course_caller first] at panicked
    cases outcome : (station.entered args stage rest).outcome with
    | returned verdict =>
      cases verdict with
      | answer response => simp [Course.andThen, outcome, Course.precede, Course.returned] at panicked
      | proceed request after => exact absurd outcome (refuses request after)
    | panicked raised =>
      simp only [Course.andThen, outcome, Outcome.panicked.injEq] at panicked
      exact ⟨_, .before first (panicked ▸ outcome)⟩
    | cut => simp [Course.andThen, outcome] at panicked

/-- A panic that leaves the chain was raised somewhere. -/
theorem exists_raises (panicked : (station.course args handler).outcome = .panicked panic) :
    ∃ visited ∈ station.path args, ∃ deeds, visited.Raises args handler deeds panic := by
  induction station using inward_induction args with
  | step station inductionHypothesis =>
  cases goesOn : station.next? args with
  | none => exact ⟨station, mem_path_iff.mpr (.inl rfl), raises_of_none goesOn panicked⟩
  | some next =>
    rw [course_of_some goesOn] at panicked
    rcases panicked_or_raises goesOn panicked with inside | here
    · obtain ⟨visited, visits, raises⟩ := inductionHypothesis next (inward_of_next? goesOn) inside
      exact ⟨visited, mem_path_iff.mpr (.inr ⟨next, goesOn, visits⟩), raises⟩
    · exact ⟨station, mem_path_iff.mpr (.inl rfl), here⟩

/-- Around every place in a run lie deeds before and behind it, and the context there is the one at the start as all
that was done before changed it. -/
theorem exists_around (visits : visited ∈ station.path args) :
    ∃ front back, station.chronicle args handler = front ++ visited.chronicle args handler ++ back ∧
      visited.context = Chronicle.context front station.context ∧
      (visited.course args handler).context =
        Chronicle.context (front ++ visited.chronicle args handler) station.context := by
  induction station using inward_induction args with
  | step station inductionHypothesis =>
  rcases mem_path_iff.mp visits with rfl | ⟨next, goesOn, inside⟩
  · exact ⟨[], [], by simp, rfl, (events_context_course visited).2⟩
  · obtain ⟨front, back, chronicle, context, left⟩ := inductionHypothesis next (inward_of_next? goesOn) inside
    have entered : next.context = Chronicle.context (station.entering args handler) station.context :=
      context_next goesOn
    rw [entered] at context left
    refine ⟨station.entering args handler ++ front, back ++ station.leaving args (next.course args handler), ?_, ?_,
      ?_⟩
    · rw [chronicle_of_some goesOn, chronicle]
      simp only [List.append_assoc]
    · rw [context, Chronicle.context_append]
    · rw [left, Chronicle.context_append, Chronicle.context_append, Chronicle.context_append]

end Station

namespace Router

variable {router : Router} {capture : Capture} {world : World} {context : Context} {request : Request}
  {scene : Scene} {now : Nat} {deeds : Chronicle} {panic : Panic}

/-- What is made of an answer last: where the method is not allowed, the methods of the path are told. -/
def closing (router : Router) (request : Request) (response : Response) : Response :=
  match Routing.resolve router.table request.method request.target.path with
  | .notAllowed methods => announce methods response
  | _ => response

/-- The course of the chain of a dispatch, before a panic is recovered. -/
def chain (router : Router) (capture : Capture) (world : World) (context : Context) (request : Request) :
    Course Response :=
  (router.outset capture world context request).course (router.pipeline request).args
    (router.pipeline request).handler

/-- All that the chain of a dispatch does. -/
def chronicle (router : Router) (capture : Capture) (world : World) (context : Context) (request : Request) :
    Chronicle :=
  (router.outset capture world context request).chronicle (router.pipeline request).args
    (router.pipeline request).handler

/-- A panic ended the chain when some deeds were done, and the panic handler answered. -/
structure Recovers (router : Router) (capture : Capture) (world : World) (context : Context) (request : Request)
    (done : Chronicle) (panic : Panic) : Prop where
  /-- From the panic on nothing is done in the chain but that measured passes end. -/
  lost : ∃ lost, router.chronicle capture world context request = done ++ lost ∧
    ∀ moment ∈ lost, moment.deed = .shows (.ended (router.pipeline request).args.endpoint none)
  /-- The answer is the one of the panic handler, which gets the text of the panic and the context as the deeds
  changed it. What it records is recorded once. -/
  answered :
    let left := Chronicle.context done (router.arrival context request)
    let message := match panic with
      | .text text => text
      | .other => "Box<dyn Any>"
    let answer := router.config.panicHandler world left ⟨message, world.stack⟩
    let finish := (router.chain capture world context request).finish
    let spans := (router.pipeline request).args.span.toList ++ [panicSpan left request]
    router.course { capture, world } 0 context request =
      ⟨.returned (router.closing request (restoreTrace (router.pipeline request).args left answer.response)),
        finish, left,
        Chronicle.events (router.chronicle capture world context request) ++
          Scene.loggedAll { capture, world, spans } finish answer.entries⟩
  /-- A trace id that is a legal header value is the only value of the trace header. -/
  traced : ∀ value, (Chronicle.context done (router.arrival context request)).traceText ≠ "" →
    HeaderValue.ofString? (Chronicle.context done (router.arrival context request)).traceText = some value →
      router.config.traceHeader ≠ HeaderName.allow →
        (router.dispatch capture world context request).response.headers.values router.config.traceHeader = [value]

/-- What is observed of the chain and the context that it leaves are those of its chronicle. -/
theorem events_context_chain (router : Router) (capture : Capture) (world : World) (context : Context)
    (request : Request) :
    (router.chain capture world context request).events =
        Chronicle.events (router.chronicle capture world context request) ∧
      (router.chain capture world context request).context =
        Chronicle.context (router.chronicle capture world context request) (router.arrival context request) :=
  Station.events_context_course (router.outset capture world context request)

/-- Where a run of a pipeline returned, only the methods may still be told. -/
theorem course_of_returned {response : Response}
    (returned : (router.run (router.pipeline request) scene now (router.arrival context request) request).outcome =
      .returned response) :
    router.course scene now context request =
      { router.run (router.pipeline request) scene now (router.arrival context request) request with
        outcome := .returned (router.closing request response) } := by
  unfold course closing pipeline arrival at *
  cases resolved : Routing.resolve router.table request.method request.target.path with
  | found entry parameters =>
    simp only [resolved] at returned ⊢
    rw [← returned]
  | notAllowed methods =>
    simp only [resolved] at returned ⊢
    simp [Course.map, Course.andThen, returned, Course.precede, Course.returned]
  | notFound =>
    simp only [resolved] at returned ⊢
    rw [← returned]

theorem values_closing (request : Request) (response : Response)
    (apart : router.config.traceHeader ≠ HeaderName.allow) :
    (router.closing request response).headers.values router.config.traceHeader =
      response.headers.values router.config.traceHeader := by
  unfold closing
  split
  · exact values_announce _ response apart
  · rfl

theorem recovers_of_raises {visited : Station}
    (visits : visited ∈ (router.outset capture world context request).path (router.pipeline request).args)
    (raises : visited.Raises (router.pipeline request).args (router.pipeline request).handler deeds panic) :
    ∃ front, router.Recovers capture world context request (front ++ deeds) panic := by
  obtain ⟨panicked, front, lost, chronicle, measured⟩ := Station.course_of_raises visits raises
  obtain ⟨events, left⟩ := router.events_context_chain capture world context request
  have steady : ∀ moment ∈ lost, moment.isSteady := fun moment member => by
    rw [Moment.isSteady, measured moment member]
  have context_eq : (router.chain capture world context request).context =
      Chronicle.context (front ++ deeds) (router.arrival context request) := by
    rw [left, Router.chronicle, chronicle, Chronicle.context_append, Chronicle.context_of_steady steady]
  have ran : router.run (router.pipeline request) { capture, world } 0 (router.arrival context request) request =
      router.recover (router.pipeline request).args { capture, world } request
        (router.chain capture world context request) panic := run_of_panicked panicked
  have course_eq := course_of_returned (congrArg Course.outcome ran)
  rw [ran, recover, context_eq, events, Course.returned, Course.precede, List.append_nil] at course_eq
  refine ⟨front, ⟨lost, chronicle, measured⟩, ?_, fun value some legal apart => ?_⟩
  · cases panic <;> exact course_eq
  · have nonempty : ¬(Chronicle.context (front ++ deeds) (router.arrival context request)).traceText.isEmpty := by
      simpa using some
    rw [dispatch, course_eq]
    refine (values_closing request _ apart).trans ?_
    have header : (router.pipeline request).args.traceHeader = router.config.traceHeader := traceHeader_pipeline
    rw [restoreTrace, if_neg nonempty, tagResponse, legal, ← header]
    exact Headers.values_set ..

/-- How a dispatch contains panics, and what becomes of the context on every way out of its chain. -/
structure ContainsPanics (router : Router) (capture : Capture) (world : World) (context : Context) (request : Request) :
    Prop where
  /-- A panic leaves the chain exactly where the handler or a stage raises it, before or after the rest. -/
  raised : ∀ panic, (router.chain capture world context request).outcome = .panicked panic ↔
    ∃ visited ∈ (router.outset capture world context request).path (router.pipeline request).args, ∃ deeds,
      visited.Raises (router.pipeline request).args (router.pipeline request).handler deeds panic
  /-- Wherever it is raised, the dispatch is answered by the panic handler. -/
  recovered : ∀ visited ∈ (router.outset capture world context request).path (router.pipeline request).args,
    ∀ deeds panic, visited.Raises (router.pipeline request).args (router.pipeline request).handler deeds panic →
      ∃ front, router.Recovers capture world context request (front ++ deeds) panic
  /-- A deadline that elapses answers with the context as the chain that it cut left it. -/
  timedOut : ∀ visited ∈ (router.outset capture world context request).path (router.pipeline request).args,
    ∀ limit rest, visited.stages = .timeout limit :: rest →
      visited.scene.allows (visited.now + limit.timerMillis) →
        let cut := (visited.limited limit rest).course (router.pipeline request).args
          (router.pipeline request).handler
        cut.outcome = .cut →
          ∃ front back,
            let done := front ++ (visited.limited limit rest).chronicle (router.pipeline request).args
              (router.pipeline request).handler
            let left := Chronicle.context done (router.arrival context request)
            let answer := deadlineAnswer visited.scene.world.clock left
            router.chronicle capture world context request = done ++ back ∧
              visited.course (router.pipeline request).args (router.pipeline request).handler =
                ⟨.returned answer.response, cut.finish, left,
                  cut.events ++ visited.scene.loggedAll cut.finish
                    (deadlineEntry (router.pipeline request).args limit :: answer.entries)⟩
  /-- A response that the chain returned goes out in the context as everything done changed it. -/
  returned : ∀ response, (router.chain capture world context request).outcome = .returned response →
    router.course { capture, world } 0 context request =
      ⟨.returned (router.closing request response), (router.chain capture world context request).finish,
        Chronicle.context (router.chronicle capture world context request) (router.arrival context request),
        Chronicle.events (router.chronicle capture world context request)⟩
  /-- Every stage gets the context, and gets it back, as all that was done before changed it. -/
  around : ∀ visited ∈ (router.outset capture world context request).path (router.pipeline request).args,
    ∃ front back,
      let done := front ++ visited.chronicle (router.pipeline request).args (router.pipeline request).handler
      router.chronicle capture world context request = done ++ back ∧
        visited.context = Chronicle.context front (router.arrival context request) ∧
        (visited.course (router.pipeline request).args (router.pipeline request).handler).context =
          Chronicle.context done (router.arrival context request)
  /-- What the handler does to its own copy of the context is seen nowhere. -/
  copied : router.run { router.pipeline request with handler := (router.pipeline request).handler.steady }
      { capture, world } 0 (router.arrival context request) request =
    router.run (router.pipeline request) { capture, world } 0 (router.arrival context request) request

/-- Every dispatch contains panics. -/
theorem contains_panics (router : Router) (capture : Capture) (world : World) (context : Context) (request : Request) :
    router.ContainsPanics capture world context request where
  raised panic := by
    refine ⟨Station.exists_raises, ?_⟩
    rintro ⟨visited, visits, deeds, raises⟩
    exact (Station.course_of_raises visits raises).1
  recovered visited visits deeds panic raises := recovers_of_raises visits raises
  timedOut visited visits limit rest first allowed outcome := by
    have goesOn : visited.next? (router.pipeline request).args = some (visited.limited limit rest) := by
      rw [Station.next?, first]
    obtain ⟨front, back, chronicle, -, left⟩ := Station.exists_around (Station.mem_path_of_next? visits goesOn)
    refine ⟨front, back, chronicle, ?_⟩
    rw [Station.course_timeout first, if_pos allowed, Scene.expire_of_cut outcome, left]
    rfl
  returned response outcome := by
    obtain ⟨events, left⟩ := router.events_context_chain capture world context request
    have ran : router.run (router.pipeline request) { capture, world } 0 (router.arrival context request) request =
        router.chain capture world context request := run_of_returned outcome
    have course_eq := course_of_returned ((congrArg Course.outcome ran).trans outcome)
    rw [course_eq, ran, ← events, ← left]
  around visited visits := Station.exists_around visits
  copied := by
    have same : ({ router.pipeline request with handler := (router.pipeline request).handler.steady } : Pipeline).run
        { capture, world } 0 (router.arrival context request) request = router.chain capture world context request :=
      Station.course_steady (router.outset capture world context request) _ _
    rw [run, same]
    rfl

example : (noted.chain ⟨some .info⟩ {} {} broughtAlong).outcome = .panicked .other ∧
    (noted.dispatch ⟨some .info⟩ {} {} broughtAlong).response.status = Status.internalServerError ∧
    (noted.dispatch ⟨some .info⟩ {} {} broughtAlong).context.traceText = "abc" :=
  ⟨rfl, rfl, by decide⟩

end Router

end ServiceHost
