import Mathlib.Data.List.Infix
import ServiceHost.Proofs.Pipeline.Chronicle
import ServiceHost.Proofs.Trace.Agreement

/-!
Onions: which stages of a pipeline get a request, and which get a response back. The stages of a route are
entered from the outermost one on as long as they pass the request on, and those whose inner part returned get
the response in the reverse order.
-/

namespace ServiceHost

open Http Log

namespace Moment

/-- The stages whose first one is entered at a moment. -/
def entered? (moment : Moment) : Option (List Stage) :=
  match moment.deed with
  | .enters stages => some stages
  | _ => none

/-- The stages whose first one gets a response back at a moment. -/
def left? (moment : Moment) : Option (List Stage) :=
  match moment.deed with
  | .leaves stages => some stages
  | _ => none

/-- At the moment no stage is entered or left. -/
def IsWithin (moment : Moment) : Prop :=
  moment.entered? = none ∧ moment.left? = none

end Moment

namespace Chronicle

/-- The stages that are entered, in order. -/
def entered (chronicle : Chronicle) : List (List Stage) :=
  chronicle.filterMap Moment.entered?

/-- The stages that get a response back, in order. -/
def left (chronicle : Chronicle) : List (List Stage) :=
  chronicle.filterMap Moment.left?

variable {chronicle other : Chronicle}

@[simp] theorem entered_append : entered (chronicle ++ other) = entered chronicle ++ entered other :=
  List.filterMap_append

@[simp] theorem left_append : left (chronicle ++ other) = left chronicle ++ left other :=
  List.filterMap_append

theorem entered_of_within (within : ∀ moment ∈ chronicle, moment.IsWithin) : entered chronicle = [] :=
  List.filterMap_eq_nil_iff.mpr fun moment member => (within moment member).1

theorem left_of_within (within : ∀ moment ∈ chronicle, moment.IsWithin) : left chronicle = [] :=
  List.filterMap_eq_nil_iff.mpr fun moment member => (within moment member).2

end Chronicle

theorem Moment.isWithin_of_mem_ofEvents {events : List Event} {moment : Moment}
    (member : moment ∈ events.map Moment.ofEvent) : moment.IsWithin := by
  obtain ⟨event, _, rfl⟩ := List.mem_map.mp member
  exact ⟨rfl, rfl⟩

/-- Within a process no stage is entered or left. -/
theorem Scene.isWithin_of_mem_deeds {scene : Scene} {acts : List Act} {now : Nat} :
    ∀ moment ∈ scene.deeds acts now, moment.IsWithin := by
  rintro ⟨time, deed⟩ member
  cases isAct_of_mem_deeds _ member with
  | note | record | change => exact ⟨rfl, rfl⟩

namespace Station

variable {args : RouteArgs} {handler : Handler} {station next : Station}

/-- The inner part of a station was run and returned. -/
def comesBack (station : Station) (args : RouteArgs) (handler : Handler) : Bool :=
  match station.next? args with
  | none => false
  | some next =>
    match (next.course args handler).outcome with
    | .returned _ => true
    | _ => false

theorem entered_entering (station : Station) (args : RouteArgs) (handler : Handler) :
    Chronicle.entered (station.entering args handler) = [station.stages] ∧
      Chronicle.left (station.entering args handler) = [] := by
  have within : ∀ moment ∈ (station.entering args handler).tail, moment.IsWithin := by
    intro moment member
    unfold entering at member
    cases stages : station.stages with
    | nil =>
      rw [stages] at member
      exact Scene.isWithin_of_mem_deeds moment (List.mem_of_mem_filter member)
    | cons stage rest =>
      rw [stages] at member
      cases stage with
      | caller stage => exact Scene.isWithin_of_mem_deeds moment member
      | logging =>
        obtain rfl := List.mem_singleton.mp member
        exact ⟨rfl, rfl⟩
      | timeout limit => cases member
      | instrument =>
        obtain rfl := List.mem_singleton.mp member
        exact ⟨rfl, rfl⟩
  constructor
  · exact congrArg (_ :: ·) (Chronicle.entered_of_within within)
  · rw [Chronicle.left, entering, List.filterMap_cons_none rfl]
    exact Chronicle.left_of_within within

/-- Once its inner part returned, a stage gets the response, and then it is on its own. -/
theorem exists_leaving_of_returned (args : RouteArgs) {inner : Course Response} {response : Response}
    (some : station.stages ≠ []) (returned : inner.outcome = .returned response) :
    ∃ deeds, station.leaving args inner = ⟨inner.finish, .leaves station.stages⟩ :: deeds ∧
      ∀ moment ∈ deeds, moment.IsWithin := by
  unfold leaving
  cases stages : station.stages with
  | nil => exact absurd stages some
  | cons stage rest =>
    rw [returned]
    cases stage with
    | caller stage => exact ⟨_, rfl, Scene.isWithin_of_mem_deeds⟩
    | logging => exact ⟨_, rfl, fun _ => Moment.isWithin_of_mem_ofEvents⟩
    | timeout limit => exact ⟨_, rfl, by simp⟩
    | instrument => exact ⟨_, rfl, List.forall_mem_singleton.mpr ⟨rfl, rfl⟩⟩

/-- Where the inner part did not return, no response is seen. -/
theorem isWithin_of_mem_leaving {inner : Course Response}
    (lost : ∀ response, inner.outcome ≠ .returned response) :
    ∀ moment ∈ station.leaving args inner, moment.IsWithin := by
  unfold leaving
  cases stages : station.stages with
  | nil => simp
  | cons stage rest =>
    cases outcome : inner.outcome with
    | returned response => exact absurd outcome (lost response)
    | panicked panic =>
      cases stage with
      | caller | logging | timeout => simp
      | instrument => exact List.forall_mem_singleton.mpr ⟨rfl, rfl⟩
    | cut =>
      cases stage with
      | caller | logging => simp
      | timeout limit =>
        simp only
        split
        · exact fun _ => Moment.isWithin_of_mem_ofEvents
        · simp
      | instrument => exact List.forall_mem_singleton.mpr ⟨rfl, rfl⟩

theorem stages_ne_nil_of_next? (goesOn : station.next? args = some next) : station.stages ≠ [] := by
  obtain ⟨stage, stages⟩ := (inward_of_next? goesOn).stages_eq
  rw [stages]
  exact List.cons_ne_nil stage next.stages

theorem comesBack_iff : station.comesBack args handler ↔
    ∃ next response, station.next? args = some next ∧ (next.course args handler).outcome = .returned response := by
  unfold comesBack
  cases station.next? args with
  | none => simp
  | some next => cases outcome : (next.course args handler).outcome <;> simp [outcome]

/-- A stage gets a response back, once, if its inner part returned. -/
theorem entered_left_returning (station : Station) (args : RouteArgs) (handler : Handler) :
    Chronicle.entered (station.returning args handler) = [] ∧
      Chronicle.left (station.returning args handler) =
        if station.comesBack args handler then [station.stages] else [] := by
  by_cases comes : station.comesBack args handler
  · obtain ⟨next, response, goesOn, returned⟩ := comesBack_iff.mp comes
    obtain ⟨deeds, leaving, within⟩ :=
      exists_leaving_of_returned args (stages_ne_nil_of_next? goesOn) returned
    rw [if_pos comes, returning, goesOn]
    simp only [leaving]
    constructor
    · rw [Chronicle.entered, List.filterMap_cons_none rfl]
      exact Chronicle.entered_of_within within
    · exact congrArg (station.stages :: ·) (Chronicle.left_of_within within)
  · rw [if_neg comes, returning]
    cases goesOn : station.next? args with
    | none => exact ⟨rfl, rfl⟩
    | some next =>
      have within : ∀ moment ∈ station.leaving args (next.course args handler), moment.IsWithin :=
        isWithin_of_mem_leaving fun response returned =>
          comes (comesBack_iff.mpr ⟨next, response, goesOn, returned⟩)
      exact ⟨Chronicle.entered_of_within within, Chronicle.left_of_within within⟩

/-- An initial segment of the stages is entered, each of them once and in order. -/
theorem stages_path (station : Station) (args : RouteArgs) :
    (station.path args).map Station.stages = station.stages.tails.take (station.path args).length := by
  induction station using inward_induction args with
  | step station inductionHypothesis =>
  cases goesOn : station.next? args with
  | none =>
    rw [path_of_none goesOn]
    cases stages : station.stages <;> simp [stages]
  | some next =>
    obtain ⟨stage, stages⟩ := (inward_of_next? goesOn).stages_eq
    have inner := inductionHypothesis next (inward_of_next? goesOn)
    rw [path_of_some goesOn, List.map_cons, inner, stages, List.tails_cons, List.length_cons,
      List.take_succ_cons]

/-- The handler gets the request only if every stage passed it on. -/
theorem exists_handled_iff (station : Station) (args : RouteArgs) :
    (∃ visited ∈ station.path args, visited.stages = []) ↔
      ∀ visited ∈ station.path args, visited.stages ≠ [] → (visited.next? args).isSome := by
  induction station using inward_induction args with
  | step station inductionHypothesis =>
  cases goesOn : station.next? args with
  | none => simp [path_of_none goesOn, goesOn]
  | some next =>
    have inner := inductionHypothesis next (inward_of_next? goesOn)
    have here := stages_ne_nil_of_next? goesOn
    rw [path_of_some goesOn]
    simp [inner, here, goesOn]

/-- Where no deadline elapsed, a stage whose inner part did not return does nothing more, save that a
measured pass ends without an answer. -/
theorem returning_of_lost (lost : station.comesBack args handler = false)
    (uncut : ∀ next, station.next? args = some next → (next.course args handler).outcome ≠ .cut) :
    station.returning args handler = [] ∨
      ∃ time, station.returning args handler = [⟨time, .shows (.ended args.endpoint none)⟩] := by
  unfold returning comesBack at *
  cases goesOn : station.next? args with
  | none => exact .inl rfl
  | some next =>
    rw [goesOn] at lost
    dsimp only at lost ⊢
    cases outcome : (next.course args handler).outcome with
    | returned response => simp [outcome] at lost
    | cut => exact absurd outcome (uncut next goesOn)
    | panicked panic =>
      unfold leaving
      cases stages : station.stages with
      | nil => exact .inl rfl
      | cons stage rest =>
        rw [outcome]
        cases stage with
        | caller | logging | timeout => exact .inl rfl
        | instrument => exact .inr ⟨(next.course args handler).finish, by simp [Course.answered, outcome]⟩

/-- A run from a station on is an onion. -/
structure IsOnion (station : Station) (args : RouteArgs) (handler : Handler) : Prop where
  /-- An initial segment of the stages is entered, each of them once and in order, and behind all of them the
  handler. -/
  entered : Chronicle.entered (station.chronicle args handler) <+: station.stages.tails
  /-- The handler gets the request if and only if every stage that was entered passed it on. -/
  handled : [] ∈ Chronicle.entered (station.chronicle args handler) ↔
    ∀ visited ∈ station.path args, visited.stages ≠ [] → (visited.next? args).isSome
  /-- The stages whose inner part returned get the response, each of them once, the innermost first. -/
  left : Chronicle.left (station.chronicle args handler) =
    (((station.path args).filter (·.comesBack args handler)).map Station.stages).reverse
  /-- No stage is entered once another one got a response back. -/
  inward : ∃ front back, station.chronicle args handler = front ++ back ∧ Chronicle.left front = [] ∧
    Chronicle.entered back = []
  /-- Unless a deadline elapses, a stage whose inner part did not return does nothing more, save that a
  measured pass ends without an answer. -/
  lost : (∀ visited ∈ station.path args, (visited.course args handler).outcome ≠ .cut) →
    ∀ visited ∈ station.path args, visited.comesBack args handler = false →
      visited.returning args handler = [] ∨
        ∃ time, visited.returning args handler = [⟨time, .shows (.ended args.endpoint none)⟩]
  /-- Every stage makes its course of the course of the next one. -/
  layered : ∀ visited ∈ station.path args, ∀ next, visited.next? args = some next →
    visited.course args handler =
      (visited.back args (next.course args handler)).precede
        (Chronicle.events (visited.entering args handler))
  /-- All that is observed of the run is observed of its stages and the handler, in this order. -/
  observed : (station.course args handler).events = Chronicle.events (station.chronicle args handler)

theorem entered_flatMap_entering (args : RouteArgs) (handler : Handler) (visited : List Station) :
    Chronicle.entered (visited.flatMap (·.entering args handler)) = visited.map Station.stages ∧
      Chronicle.left (visited.flatMap (·.entering args handler)) = [] := by
  induction visited with
  | nil => exact ⟨rfl, rfl⟩
  | cons station visited inductionHypothesis =>
    obtain ⟨entered, left⟩ := entered_entering station args handler
    rw [List.flatMap_cons, Chronicle.entered_append, Chronicle.left_append, entered, left, inductionHypothesis.1,
      inductionHypothesis.2]
    exact ⟨rfl, rfl⟩

theorem left_flatMap_returning (args : RouteArgs) (handler : Handler) (visited : List Station) :
    Chronicle.entered (visited.flatMap (·.returning args handler)) = [] ∧
      Chronicle.left (visited.flatMap (·.returning args handler)) =
        (visited.filter (·.comesBack args handler)).map Station.stages := by
  induction visited with
  | nil => exact ⟨rfl, rfl⟩
  | cons station visited inductionHypothesis =>
    obtain ⟨entered, left⟩ := entered_left_returning station args handler
    rw [List.flatMap_cons, Chronicle.entered_append, Chronicle.left_append, entered, left, inductionHypothesis.1,
      inductionHypothesis.2, List.filter_cons]
    split <;> exact ⟨rfl, rfl⟩

theorem mem_path_of_next? {visited : Station} (visits : visited ∈ station.path args)
    (goesOn : visited.next? args = some next) : next ∈ station.path args := by
  induction station using inward_induction args with
  | step station inductionHypothesis =>
  cases further : station.next? args with
  | none =>
    rw [path_of_none further, List.mem_singleton] at visits
    subst visits
    rw [further] at goesOn
    cases goesOn
  | some inner =>
    rw [path_of_some further] at visits ⊢
    rcases List.mem_cons.mp visits with rfl | inside
    · rw [further, Option.some.injEq] at goesOn
      subst goesOn
      refine List.mem_cons_of_mem _ ?_
      unfold path
      split <;> simp
    · exact List.mem_cons_of_mem _ (inductionHypothesis inner (inward_of_next? further) inside)

/-- Every run is an onion. -/
theorem isOnion (station : Station) (args : RouteArgs) (handler : Handler) : station.IsOnion args handler := by
  obtain ⟨entered, noneLeft⟩ := entered_flatMap_entering args handler (station.path args)
  obtain ⟨noneEntered, left⟩ := left_flatMap_returning args handler (station.path args).reverse
  have all : Chronicle.entered (station.chronicle args handler) = (station.path args).map Station.stages := by
    rw [chronicle, Chronicle.entered_append, entered, noneEntered, List.append_nil]
  constructor
  · rw [all, stages_path]
    exact List.take_prefix _ _
  · rw [all, ← exists_handled_iff]
    simp
  · rw [chronicle, Chronicle.left_append, left, noneLeft, List.nil_append, List.filter_reverse,
      List.map_reverse]
  · exact ⟨_, _, rfl, noneLeft, noneEntered⟩
  · intro uncut visited visits lost
    exact returning_of_lost lost fun next goesOn => uncut next (mem_path_of_next? visits goesOn)
  · exact fun visited _ next goesOn => course_of_some goesOn
  · exact (events_context_course station).1

end Station

/-- Another value leaves what was observed as it is. -/
theorem Course.events_map {α β : Type} {change : α → β} {course : Course α} :
    (course.map change).events = course.events := by
  unfold map andThen
  cases course.outcome <;> simp [returned]

namespace Router

variable {router : Router} {capture : Capture} {world : World} {context : Context} {request : Request}
  {entry : Routing.Entry Pipeline} {parameters : Parameters}

/-- Beyond its chain a dispatch makes records only, and those only if the chain panicked. -/
theorem exists_recovered (router : Router) (capture : Capture) (world : World) (context : Context)
    (request : Request) :
    let course := (router.outset capture world context request).course (router.pipeline request).args
      (router.pipeline request).handler
    ∃ recovered, (router.dispatch capture world context request).events = course.events ++ recovered ∧
      (∀ event ∈ recovered, ∃ record, event.what = .record record) ∧
      ((∀ panic, course.outcome ≠ .panicked panic) → recovered = []) := by
  intro course
  have ran : ∃ recovered, (router.run (router.pipeline request) { capture, world } 0
      (router.arrival context request) request).events = course.events ++ recovered ∧
        (∀ event ∈ recovered, ∃ record, event.what = .record record) ∧
        ((∀ panic, course.outcome ≠ .panicked panic) → recovered = []) := by
    have ran_eq : (router.pipeline request).run { capture, world } 0 (router.arrival context request) request =
      course := rfl
    cases outcome : course.outcome with
    | returned | cut =>
      rw [run_of_calm (by rw [ran_eq, outcome]; simp)]
      exact ⟨[], by simp [ran_eq], by simp, fun _ => rfl⟩
    | panicked panic =>
      rw [run_of_panicked (by rw [ran_eq, outcome]), ran_eq]
      refine ⟨_, (List.append_assoc ..).trans rfl, fun event member => ?_, fun calm => absurd rfl (calm panic)⟩
      rw [Course.returned, List.append_nil] at member
      obtain ⟨record, rfl⟩ := Scene.exists_record_of_mem_loggedAll member
      exact ⟨record, rfl⟩
  obtain ⟨recovered, events, records, calm⟩ := ran
  refine ⟨recovered, ?_, records, calm⟩
  rw [← events]
  rcases course_cases router { capture, world } 0 context request with same | ⟨methods, told⟩
  · rw [dispatch, same]
    rfl
  · rw [dispatch, told]
    exact Course.events_map

/-- The layers around the handler of a route: the recording stage, unless it is turned off for all routes or
for this one, the deadline of the route or else of all, unless it is zero, the stages of the configuration and
those of the route. -/
def layers (router : Router) (route : Route) : List Stage :=
  (if router.config.options.loggerDisabled ∨ route.loggerDisabled then [] else [.logging]) ++
    (match route.timeout with
      | some limit => if limit = Duration.zero then [] else [.timeout limit]
      | none =>
        if router.config.options.timeouts.request = Duration.zero then []
        else [.timeout router.config.options.timeouts.request]) ++
    router.config.options.stages ++ route.stages

theorem stages_routePipeline (router : Router) (route : Route) :
    (router.config.routePipeline route).stages = router.layers route := by
  have logging : (if !router.config.options.loggerDisabled && !route.loggerDisabled then [Stage.logging] else []) =
      if router.config.options.loggerDisabled ∨ route.loggerDisabled then [] else [.logging] := by
    cases router.config.options.loggerDisabled <;> cases route.loggerDisabled <;> rfl
  have limits (limit : Duration) : (if limit.isZero then [] else [Stage.timeout limit]) =
      if limit = Duration.zero then [] else [.timeout limit] := by
    simp only [Duration.isZero_iff]
  rw [layers, ← logging]
  cases own : route.timeout with
  | none => simp [Config.routePipeline, Assembly.build, Assembly.stages, own]
  | some limit => simp [Config.routePipeline, Assembly.build, Assembly.stages, own]

/-- The stages around the handler of a route are its layers, and every dispatch to the route is an onion of
them: what they do is all that is observed of it, save the records made while a panic is recovered. -/
theorem dispatch_onion (capture : Capture) (world : World) (context : Context)
    (found : Routing.resolve router.table request.method request.target.path = .found entry parameters) :
    ∃ route ∈ router.routes, entry = router.entry route ∧
      entry.target.handler = route.handler ∧ entry.target.stages = router.layers route ∧
      (router.outset capture world context request).stages = router.layers route ∧
      (router.outset capture world context request).IsOnion entry.target.args route.handler ∧
      ∃ recovered, (router.dispatch capture world context request).events =
          Chronicle.events
            ((router.outset capture world context request).chronicle entry.target.args route.handler) ++
              recovered ∧
        (∀ event ∈ recovered, ∃ record, event.what = .record record) ∧
        ((∀ panic, ((router.outset capture world context request).course entry.target.args
          route.handler).outcome ≠ .panicked panic) → recovered = []) := by
  have pipeline_eq : router.pipeline request = entry.target := by rw [pipeline, found]
  obtain ⟨route, member, rfl⟩ := List.mem_map.mp (Routing.mem_of_resolveFrom found)
  obtain ⟨recovered, events, records, calm⟩ := exists_recovered router capture world context request
  rw [pipeline_eq] at events calm
  have onion := (router.outset capture world context request).isOnion (router.entry route).target.args
    route.handler
  have layers_eq : (router.entry route).target.stages = router.layers route := stages_routePipeline router route
  refine ⟨route, member, rfl, rfl, layers_eq, ?_, onion, recovered, ?_, records, calm⟩
  · rw [outset, pipeline_eq, layers_eq]
  · rw [events, ← onion.observed]
    rfl

/-- A route with a stage that denies every request behind one that takes notes. -/
def guardedRoute : Route where
  path := "/a"
  handler := Handler.panicking .other
  stages := [.caller (CallerStage.recorder "notes"), .caller (CallerStage.deny "guard" Status.serviceUnavailable)]

def guarded : Router :=
  .make ⟨{}, ⟨[], 8017⟩, HeaderName.requestId⟩ [guardedRoute]

theorem dispatch_onion_guarded :
    ∃ route ∈ guarded.routes, guarded.entry guardedRoute = guarded.entry route ∧
      (guarded.entry guardedRoute).target.handler = route.handler ∧
      (guarded.entry guardedRoute).target.stages = guarded.layers route ∧
      (guarded.outset ⟨some .info⟩ {} {} { target := .origin ⟨"/a", none⟩ }).stages = guarded.layers route ∧
      (guarded.outset ⟨some .info⟩ {} {} { target := .origin ⟨"/a", none⟩ }).IsOnion
        (guarded.entry guardedRoute).target.args route.handler ∧
      ∃ recovered, (guarded.dispatch ⟨some .info⟩ {} {} { target := .origin ⟨"/a", none⟩ }).events =
          Chronicle.events
            ((guarded.outset ⟨some .info⟩ {} {} { target := .origin ⟨"/a", none⟩ }).chronicle
              (guarded.entry guardedRoute).target.args route.handler) ++ recovered ∧
        (∀ event ∈ recovered, ∃ record, event.what = .record record) ∧
        ((∀ panic, ((guarded.outset ⟨some .info⟩ {} {} { target := .origin ⟨"/a", none⟩ }).course
          (guarded.entry guardedRoute).target.args route.handler).outcome ≠ .panicked panic) →
            recovered = []) :=
  dispatch_onion ⟨some .info⟩ {} {} rfl

end Router

end ServiceHost
