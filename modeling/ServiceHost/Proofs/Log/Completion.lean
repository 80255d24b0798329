import ServiceHost.Proofs.Envelope.Runtime
import ServiceHost.Proofs.Log.Verbosity

/-!
Completion: the record that closes a recorded request. It is made once, behind everything else, where the chain inside
the recording stage returned, and not at all where it panicked. Whether it says that a deadline elapsed depends on the
mark of the response, which deadlines make and which every stage outside of them may keep or lose.
-/

namespace ServiceHost

open Http Log

variable {args : RouteArgs} {handler : Handler} {station next : Station} {response : Response}

/-! ### Marks -/

/-- A stage of the caller leaves marks to the deadlines: what it answers by itself has none, and what it returns has
one only if the response that it got had it. -/
structure CallerStage.LeavesMarks (stage : CallerStage) : Prop where
  answer {visit : Visit} {response : Response} (answers : (stage.enter visit).result = .ok (.answer response)) :
    response.timedOut = false
  after {visit : Visit} {request : Request} {after : Context → Response → Process Response}
    (proceeds : (stage.enter visit).result = .ok (.proceed request after)) {context : Context}
    {response passed : Response} (returns : (after context response).result = .ok passed) :
    passed.timedOut = true → response.timedOut = true

/-- A handler leaves marks to the deadlines. -/
def Handler.LeavesMarks (handler : Handler) : Prop :=
  ∀ call response, (handler call).result = .ok response → response.timedOut = false

namespace Station

/-- A run goes on from one station to the next one, and if it goes through a stage of the caller, this stage passes its
response on: it returns one with a mark exactly if the response that it got has one. -/
structure PassesOn (args : RouteArgs) (handler : Handler) (station next : Station) : Prop where
  inward : Inward args station next
  passes : ∀ stage rest, station.stages = .caller stage :: rest → ∃ response passed,
    (next.course args handler).outcome = .returned response ∧
      (station.course args handler).outcome = .returned passed ∧ passed.timedOut = response.timedOut

/-- The handler or a stage of the caller makes a mark by itself: its response has one, though no response with one came
back to it. -/
structure Marks (station : Station) (args : RouteArgs) (handler : Handler) : Prop where
  own : station.stages = [] ∨ ∃ stage rest, station.stages = .caller stage :: rest
  marked : ∃ response, (station.course args handler).outcome = .returned response ∧ response.timedOut = true
  unmarked : ∀ next response, Inward args station next → (next.course args handler).outcome = .returned response →
    response.timedOut = false

/-- The course from a station on ends with a marked response. -/
def ReturnsMarked (station : Station) (args : RouteArgs) (handler : Handler) : Prop :=
  ∃ response, (station.course args handler).outcome = .returned response ∧ response.timedOut = true

/-- A response is marked exactly if the course that returned it ends with a marked response. -/
theorem timedOut_iff (returned : (station.course args handler).outcome = .returned response) :
    response.timedOut = true ↔ station.ReturnsMarked args handler := by
  refine ⟨fun marked => ⟨response, returned, marked⟩, ?_⟩
  rintro ⟨other, outcome, marked⟩
  obtain rfl := Outcome.returned.inj (outcome.symm.trans returned)
  exact marked

/-- A deadline that elapses returns a marked response. -/
theorem Elapses.returnsMarked (elapses : station.Elapses args handler) : station.ReturnsMarked args handler := by
  obtain ⟨limit, rest, first, allowed, cut⟩ := elapses
  rw [ReturnsMarked, course_timeout first, if_pos allowed, Scene.expire_of_cut cut]
  exact ⟨_, rfl, rfl⟩

theorem timedOut_tagResponse (traceHeader : HeaderName) (traceId : String) (response : Response) :
    (tagResponse traceHeader traceId response).timedOut = response.timedOut := by
  unfold tagResponse
  split <;> rfl

/-- Through a built-in stage whose deadline, if it has one, does not elapse a mark comes as it is. -/
theorem returnsMarked_iff_of_inward (inward : Inward args station next)
    (builtin : ∀ stage rest, station.stages ≠ .caller stage :: rest) (silent : ¬station.Elapses args handler) :
    station.ReturnsMarked args handler ↔ next.ReturnsMarked args handler := by
  unfold ReturnsMarked
  cases inward with
  | caller first _ => exact absurd first (builtin _ _)
  | @logging rest first =>
    obtain ⟨dump, course_eq⟩ := course_logging handler first
    rw [course_eq]
    cases outcome : ((station.recorded args rest).course args handler).outcome <;>
      simp [Course.andThen, outcome, Course.precede, Course.returned, timedOut_tagResponse]
  | @timeout limit rest first =>
    rw [course_timeout first]
    split
    · rename_i allowed
      have uncut : ((station.limited limit rest).course args handler).outcome ≠ .cut :=
        fun cut => silent ⟨limit, rest, first, allowed, cut⟩
      rw [Scene.expire_of_uncut uncut]
    · exact Iff.rfl
  | instrument first =>
    rw [course_instrument first]
    exact Iff.rfl

/-- A stage of the caller that returns a response either got none from inside or returns what it makes of it. -/
theorem returned_of_caller {stage : CallerStage} {rest : List Stage} (first : station.stages = .caller stage :: rest)
    (inward : Inward args station next) (returned : (station.course args handler).outcome = .returned response) :
    ∃ inner, (next.course args handler).outcome = .returned inner := by
  rw [course_of_some (inward_iff.mp inward), back, first] at returned
  simp only [Course.precede, Course.andThen] at returned
  cases outcome : (next.course args handler).outcome with
  | returned inner => exact ⟨inner, rfl⟩
  | panicked panic => simp [outcome] at returned
  | cut => simp [outcome] at returned

/-- Where one response is passed on, a mark comes along. -/
theorem PassesOn.returnsMarked (passesOn : PassesOn args handler station next)
    (marked : next.ReturnsMarked args handler) : station.ReturnsMarked args handler := by
  by_cases caller : ∃ stage rest, station.stages = .caller stage :: rest
  · obtain ⟨stage, rest, first⟩ := caller
    obtain ⟨response, passed, comesBack, returned, same⟩ := passesOn.passes stage rest first
    obtain ⟨inner, outcome, mark⟩ := marked
    obtain rfl := Outcome.returned.inj (comesBack.symm.trans outcome)
    exact ⟨passed, returned, same.trans mark⟩
  · by_cases elapses : station.Elapses args handler
    · exact elapses.returnsMarked
    · have builtin : ∀ stage rest, station.stages ≠ .caller stage :: rest :=
        fun stage rest first => caller ⟨stage, rest, first⟩
      exact (returnsMarked_iff_of_inward passesOn.inward builtin elapses).mpr marked

/-- A response is marked exactly where a deadline elapsed, or the application made the mark itself, and every stage of
the caller outside of it passed its response on. -/
theorem returnsMarked_iff (station : Station) : station.ReturnsMarked args handler ↔
    ∃ origin, Relation.ReflTransGen (PassesOn args handler) station origin ∧
      (origin.Elapses args handler ∨ origin.Marks args handler) := by
  constructor
  · induction station using inward_induction args with
    | step station inductionHypothesis =>
    intro marked
    by_cases source : station.Elapses args handler ∨ station.Marks args handler
    · exact ⟨station, .refl, source⟩
    obtain ⟨silent, foreign⟩ := not_or.mp source
    -- What is not made here came from inside, through a stage that passed it on.
    have further (next : Station) (passesOn : PassesOn args handler station next)
        (inside : next.ReturnsMarked args handler) :
        ∃ origin, Relation.ReflTransGen (PassesOn args handler) station origin ∧
          (origin.Elapses args handler ∨ origin.Marks args handler) := by
      obtain ⟨origin, reaches, made⟩ := inductionHypothesis next passesOn.inward inside
      exact ⟨origin, .head passesOn reaches, made⟩
    by_cases own : station.stages = [] ∨ ∃ stage rest, station.stages = .caller stage :: rest
    · have unmarked : ¬∀ next response, Inward args station next →
          (next.course args handler).outcome = .returned response → response.timedOut = false :=
        fun unmarked => foreign ⟨own, marked, unmarked⟩
      push Not at unmarked
      obtain ⟨next, inner, inward, comesBack, mark⟩ := unmarked
      rw [ne_eq, Bool.not_eq_false] at mark
      obtain ⟨response, returned, same⟩ := marked
      exact further next ⟨inward, fun _ _ _ => ⟨inner, response, comesBack, returned, same.trans mark.symm⟩⟩
        ⟨inner, comesBack, mark⟩
    · obtain ⟨nonempty, builtin⟩ := not_or.mp own
      have builtin : ∀ stage rest, station.stages ≠ .caller stage :: rest :=
        fun stage rest first => builtin ⟨stage, rest, first⟩
      cases goesOn : station.next? args with
      | none =>
        rcases none_cases goesOn with last | ⟨stage, rest, first, _⟩
        · exact absurd last nonempty
        · exact absurd first (builtin stage rest)
      | some next =>
        have inward := inward_of_next? goesOn
        exact further next ⟨inward, fun stage rest first => absurd first (builtin stage rest)⟩
          ((returnsMarked_iff_of_inward inward builtin silent).mp marked)
  · rintro ⟨origin, reaches, made⟩
    have source : origin.ReturnsMarked args handler := made.elim Elapses.returnsMarked Marks.marked
    induction reaches using Relation.ReflTransGen.head_induction_on with
    | refl => exact source
    | head passesOn _ inductionHypothesis => exact passesOn.returnsMarked inductionHypothesis

/-- Where the application leaves marks to the deadlines, it makes none. -/
theorem not_marks (handled : handler.LeavesMarks)
    (staged : ∀ stage, .caller stage ∈ station.stages → stage.LeavesMarks) : ¬station.Marks args handler := by
  rintro ⟨own, ⟨response, returned, marked⟩, unmarked⟩
  rcases own with last | ⟨stage, rest, first⟩
  · rw [course_handler last] at returned
    rw [handled _ _ (Scene.result_of_run returned)] at marked
    cases marked
  · have leaves := staged stage (first ▸ List.mem_cons_self)
    cases outcome : (station.entered args stage rest).outcome with
    | panicked panic =>
      rw [course_caller first, Course.andThen, outcome] at returned
      cases returned
    | cut =>
      rw [course_caller first, Course.andThen, outcome] at returned
      cases returned
    | returned verdict =>
      cases verdict with
      | answer answered =>
        rw [course_caller first, Course.andThen, outcome] at returned
        obtain rfl : answered = response := Outcome.returned.inj returned
        rw [leaves.answer (Scene.result_of_run outcome)] at marked
        cases marked
      | proceed request after =>
        have inward : Inward args station (station.behind args stage rest request) := .caller first outcome
        have after_eq : station.after args stage rest = after := by rw [Station.after, outcome]
        obtain ⟨inner, comesBack⟩ := returned_of_caller first inward returned
        rw [course_of_some (inward_iff.mp inward), back, first] at returned
        simp only [Course.precede, Course.andThen, comesBack, after_eq] at returned
        have mark := leaves.after (Scene.result_of_run outcome) (Scene.result_of_run returned) marked
        rw [unmarked _ inner inward comesBack] at mark
        cases mark

/-- Where the application leaves marks to the deadlines, only those that elapse make them. -/
theorem returnsMarked_iff_of_leaves (handled : handler.LeavesMarks)
    (staged : ∀ stage, .caller stage ∈ station.stages → stage.LeavesMarks) :
    station.ReturnsMarked args handler ↔ station.Elapses args handler ∨
      ∃ origin, Relation.TransGen (PassesOn args handler) station origin ∧ origin.Elapses args handler := by
  rw [returnsMarked_iff]
  constructor
  · rintro ⟨origin, reaches, made⟩
    have elapses : origin.Elapses args handler := by
      refine made.resolve_right (not_marks handled fun stage present => staged stage ?_)
      have inward : Reaches args station origin :=
        reaches.lift id fun _ _ passesOn => passesOn.inward
      exact inward.suffix_stages.mem present
    rcases Relation.reflTransGen_iff_eq_or_transGen.mp reaches with rfl | further
    · exact .inl elapses
    · exact .inr ⟨origin, further, elapses⟩
  · rintro (elapses | ⟨origin, further, elapses⟩)
    · exact ⟨station, .refl, .inl elapses⟩
    · exact ⟨origin, further.to_reflTransGen, .inl elapses⟩

end Station

/-! ### Records -/

/-- A record closes a request with a status, and says whether a deadline elapsed. -/
structure Log.Record.Closes (record : Record) (status : Status) (timedOut : Bool) : Prop where
  message : record.entry.message = "request completed"
  code : record.field? "response_code" = some (.number status.code)
  level : record.entry.level = if timedOut then .info else .debug
  flag : ∀ value, ("timed_out", value) ∈ record.entry.fields ↔ timedOut = true ∧ value = .flag true

theorem closes_completionEntry (spans : List Span) (dump : Option String) (elapsed : Nat) (response : Response) :
    Record.Closes ⟨spans, completionEntry dump elapsed response⟩ response.status response.timedOut where
  message := rfl
  code := by
    rw [Record.field?, Record.fields, List.reverse_append, List.lookup_append]
    cases marked : response.timedOut <;> cases dump <;> simp [completionEntry, marked, List.lookup_cons]
  level := rfl
  flag value := by
    cases marked : response.timedOut <;> cases dump <;> simp [completionEntry, marked]

theorem status_tagResponse (traceHeader : HeaderName) (traceId : String) (response : Response) :
    (tagResponse traceHeader traceId response).status = response.status := by
  unfold tagResponse
  split <;> rfl

namespace Station

variable {rest : List Stage}

/-- The recording stage returns the response that it got with a trace header, and makes one more entry. -/
theorem exists_course_of_returned (station : Station) (first : station.stages = .logging :: rest)
    (returned : ((station.recorded args rest).course args handler).outcome = .returned response) :
    ∃ dump elapsed tagged, (station.course args handler).outcome = .returned tagged ∧
      tagged.status = response.status ∧ tagged.timedOut = response.timedOut ∧
      (station.course args handler).events = ((station.recorded args rest).course args handler).events ++
        (station.recorded args rest).scene.logged ((station.recorded args rest).course args handler).finish
          (completionEntry dump elapsed tagged) := by
  obtain ⟨dump, course_eq⟩ := course_logging handler first
  rw [Course.andThen, returned] at course_eq
  refine ⟨dump, ((station.recorded args rest).course args handler).finish - station.now,
    tagResponse args.traceHeader (station.traceId args rest) response, congrArg Course.outcome course_eq,
    status_tagResponse .., timedOut_tagResponse .., (congrArg Course.events course_eq).trans ?_⟩
  simp only [Course.precede, Course.returned, List.append_nil]

/-- The recording stage lets a panic through and makes no entry. -/
theorem course_of_panicked (station : Station) (first : station.stages = .logging :: rest) {panic : Panic}
    (panicked : ((station.recorded args rest).course args handler).outcome = .panicked panic) :
    station.course args handler = (station.recorded args rest).course args handler := by
  obtain ⟨dump, course_eq⟩ := course_logging handler first
  rw [course_eq, Course.andThen]
  generalize (station.recorded args rest).course args handler = inside at panicked
  obtain ⟨outcome, finish, context, events⟩ := inside
  subst panicked
  rfl

end Station

/-- What is kept of an entry is one event. -/
theorem Scene.logged_of_keeps {scene : Scene} {now : Nat} {entry : Entry} (kept : scene.capture.keeps entry.level) :
    scene.logged now entry = [⟨now, .record ⟨scene.capture.spans scene.spans, entry⟩⟩] := by
  simp [logged, Capture.record?, kept]

/-- How many of some events are records that say that a request was completed. -/
def completions (events : List Event) : Nat :=
  (records events).countP (·.entry.message = "request completed")

theorem completions_append (events others : List Event) :
    completions (events ++ others) = completions events + completions others := by
  rw [completions, records_append, List.countP_append]
  rfl

/-- No record says that a request was completed. -/
abbrev NoneCompletes : List Event → Prop :=
  RecordsAll (·.entry.message ≠ "request completed")

theorem completions_eq_zero {events : List Event} (none : NoneCompletes events) : completions events = 0 := by
  rw [completions, List.countP_eq_zero]
  intro record member
  obtain ⟨event, present, recorded⟩ := List.mem_filterMap.mp member
  have what : event.what = .record record := by
    cases whole : event.what <;> rw [whole] at recorded <;> cases recorded
    rfl
  simpa using none event present record what

/-- A deadline does not say that a request was completed. -/
theorem Scene.noneCompletes_expire (scene : Scene) (args : RouteArgs) (limit : Duration) {course : Course Response}
    (none : NoneCompletes course.events) : NoneCompletes (scene.expire args limit course).events := by
  unfold expire
  split
  · refine RecordsAll.append.mpr ⟨none, recordsAll_loggedAll fun entry present _ => ?_⟩
    simp only [deadlineAnswer, Envelope.send_entries, List.mem_cons, List.not_mem_nil, or_false] at present
    rcases present with rfl | rfl
    · show "handler deadline elapsed" ≠ "request completed"
      decide
    · show "response" ≠ "request completed"
      decide
  · exact none

/-- A chain without the recording stage does not say that a request was completed, unless the application does. -/
theorem Station.noneCompletes_course (unlogged : .logging ∉ station.stages)
    (handled : ∀ call entry, (handler call).Logs entry → entry.message ≠ "request completed")
    (staged : ∀ stage, .caller stage ∈ station.stages → ∀ entry, stage.Logs entry →
      entry.message ≠ "request completed") :
    NoneCompletes (station.course args handler).events := by
  induction station using inward_induction args with
  | step station inductionHypothesis =>
  have behind (next : Station) (inward : Inward args station next) : NoneCompletes (next.course args handler).events :=
    inductionHypothesis next inward (fun member => unlogged (inward.suffix_stages.mem member))
      fun stage present => staged stage (inward.suffix_stages.mem present)
  cases stages : station.stages with
  | nil =>
    rw [course_handler stages]
    exact Scene.recordsAll_run fun entry logs _ => handled _ entry logs
  | cons stage rest =>
    cases stage with
    | caller stage =>
      have own := staged stage (stages ▸ List.mem_cons_self)
      rw [course_caller stages]
      refine Course.recordsAll_andThen (Scene.recordsAll_run fun entry logs _ => own entry (.before _ logs))
        fun verdict entered => ?_
      cases verdict with
      | answer response => exact .nil
      | proceed request after =>
        refine Course.recordsAll_andThen (behind _ (.caller stages entered)) fun response _ => ?_
        exact Scene.recordsAll_run fun entry logs _ =>
          own entry (.after _ _ response (Scene.result_of_run entered) logs)
    | logging => exact absurd (stages ▸ List.mem_cons_self) unlogged
    | timeout limit =>
      have inner := behind _ (.timeout stages)
      rw [course_timeout stages]
      split
      · exact station.scene.noneCompletes_expire args limit inner
      · exact inner
    | instrument =>
      rw [course_instrument stages]
      simp only [Course.follow, Course.events_precede]
      exact RecordsAll.append.mpr ⟨RecordsAll.append.mpr ⟨.singleton (by simp), behind _ (.instrument stages)⟩,
        .singleton (by simp)⟩

namespace Router

variable {router : Router} {capture : Capture} {world : World} {context : Context} {request : Request}
  {inner : List Stage}

/-- What lies inside the recording stage of a dispatch. -/
def below (router : Router) (capture : Capture) (world : World) (context : Context) (request : Request)
    (inner : List Stage) : Course Response :=
  (router.threshold capture world context request inner).course (router.pipeline request).args
    (router.pipeline request).handler

/-- The application leaves marks to the deadlines, in the handler and in all stages. -/
structure LeavesMarks (router : Router) (request : Request) : Prop where
  handler : (router.pipeline request).handler.LeavesMarks
  stage : ∀ stage, .caller stage ∈ (router.pipeline request).stages → stage.LeavesMarks

/-- How the dispatch of a recorded request is closed. -/
structure Completes (router : Router) (capture : Capture) (world : World) (context : Context) (request : Request)
    (inner : List Stage) : Prop where
  /-- What lies inside the recording stage returns or panics. -/
  ends : (∃ response, (router.below capture world context request inner).outcome = .returned response) ∨
    ∃ panic, (router.below capture world context request inner).outcome = .panicked panic
  /-- Where it returned, one more record closes the request, and nothing is recorded behind it. -/
  closed : ∀ response, (router.below capture world context request inner).outcome = .returned response →
    ∃ record, record.Closes (router.dispatch capture world context request).response.status response.timedOut ∧
      (router.dispatch capture world context request).events =
        (router.below capture world context request inner).events ++
          [⟨(router.below capture world context request inner).finish, .record record⟩]
  /-- Where it panicked, nothing more is recorded but the entries of the panic handler. -/
  unclosed : ∀ panic, (router.below capture world context request inner).outcome = .panicked panic →
    ∃ scene : Scene, (router.dispatch capture world context request).events =
      (router.below capture world context request inner).events ++
        scene.loggedAll (router.below capture world context request inner).finish
          (router.config.panicHandler world (router.below capture world context request inner).context
            ⟨panic.message, world.stack⟩).entries
  /-- Unless the application itself says so, exactly one record says that the request was completed, or none. -/
  counted : (∀ entry, router.Logs request entry → entry.message ≠ "request completed") →
    completions (router.dispatch capture world context request).events =
      match (router.below capture world context request inner).outcome with
      | .returned _ => 1
      | _ => 0
  /-- The response that the recording stage gets is marked exactly where a deadline elapsed, or the application made
  the mark itself, and every stage of the caller outside of it passed its response on. -/
  marked : ∀ response, (router.below capture world context request inner).outcome = .returned response →
    (response.timedOut = true ↔ ∃ origin,
      Relation.ReflTransGen (Station.PassesOn (router.pipeline request).args (router.pipeline request).handler)
        (router.threshold capture world context request inner) origin ∧
      (origin.Elapses (router.pipeline request).args (router.pipeline request).handler ∨
        origin.Marks (router.pipeline request).args (router.pipeline request).handler))
  /-- Where the application leaves marks to the deadlines, the one right inside the recording stage elapsed, which is
  the built-in one, or a deadline further inside did and every stage of the caller outside of it passed its response
  on. -/
  deadlines : router.LeavesMarks request →
    ∀ response, (router.below capture world context request inner).outcome = .returned response →
      (response.timedOut = true ↔
        (router.threshold capture world context request inner).Elapses (router.pipeline request).args
            (router.pipeline request).handler ∨
          ∃ origin,
            Relation.TransGen
              (Station.PassesOn (router.pipeline request).args (router.pipeline request).handler)
              (router.threshold capture world context request inner) origin ∧
            origin.Elapses (router.pipeline request).args (router.pipeline request).handler)

theorem status_closing (request : Request) (response : Response) :
    (router.closing request response).status = response.status := by
  unfold closing announce
  split
  · split <;> rfl
  · rfl

/-- Where what lies inside the recording stage returned, the chain returns its response with a trace header, and makes
one more entry. -/
theorem exists_chain_of_returned (logged : (router.pipeline request).stages = .logging :: inner)
    (returned : (router.below capture world context request inner).outcome = .returned response) :
    ∃ dump elapsed tagged, (router.chain capture world context request).outcome = .returned tagged ∧
      tagged.status = response.status ∧ tagged.timedOut = response.timedOut ∧
      (router.chain capture world context request).events =
        (router.below capture world context request inner).events ++
          (router.threshold capture world context request inner).scene.logged
            (router.below capture world context request inner).finish (completionEntry dump elapsed tagged) :=
  (router.outset capture world context request).exists_course_of_returned logged returned

/-- Where what lies inside the recording stage panicked, so does the chain, and nothing is added. -/
theorem chain_of_panicked (logged : (router.pipeline request).stages = .logging :: inner) {panic : Panic}
    (panicked : (router.below capture world context request inner).outcome = .panicked panic) :
    router.chain capture world context request = router.below capture world context request inner :=
  (router.outset capture world context request).course_of_panicked logged panicked

/-- Where what lies inside the recording stage returned, its record comes last. -/
theorem exists_closing_record (logged : (router.pipeline request).stages = .logging :: inner)
    (kept : capture.keeps .debug)
    (returned : (router.below capture world context request inner).outcome = .returned response) :
    ∃ record, record.Closes (router.dispatch capture world context request).response.status response.timedOut ∧
      (router.dispatch capture world context request).events =
        (router.below capture world context request inner).events ++
          [⟨(router.below capture world context request inner).finish, .record record⟩] := by
  obtain ⟨dump, elapsed, tagged, outcome, status, timedOut, events⟩ := exists_chain_of_returned logged returned
  have ran : router.run (router.pipeline request) { capture, world } 0 (router.arrival context request) request =
      router.chain capture world context request := run_of_returned outcome
  have course_eq := course_of_returned ((congrArg Course.outcome ran).trans outcome)
  have severe : capture.keeps (completionEntry dump elapsed tagged).level := by
    show capture.keeps (if tagged.timedOut then .info else .debug)
    split
    · exact Capture.keeps_of_keeps (by decide) kept
    · exact kept
  have answered : (router.dispatch capture world context request).response.status = tagged.status := by
    rw [dispatch, course_eq]
    exact status_closing request tagged
  refine ⟨⟨capture.spans (router.threshold capture world context request inner).scene.spans,
    completionEntry dump elapsed tagged⟩, ?_, ?_⟩
  · rw [answered, ← timedOut]
    exact closes_completionEntry _ dump elapsed tagged
  · rw [dispatch, course_eq, ran]
    show (router.chain capture world context request).events = _
    rw [events, Scene.logged_of_keeps (by exact severe)]
    rfl

/-- Where what lies inside the recording stage panicked, only the panic handler makes more entries. -/
theorem events_dispatch_of_panicked (logged : (router.pipeline request).stages = .logging :: inner) {panic : Panic}
    (panicked : (router.below capture world context request inner).outcome = .panicked panic) :
    ∃ scene : Scene, (router.dispatch capture world context request).events =
      (router.below capture world context request inner).events ++
        scene.loggedAll (router.below capture world context request inner).finish
          (router.config.panicHandler world (router.below capture world context request inner).context
            ⟨panic.message, world.stack⟩).entries := by
  have chain_eq := chain_of_panicked logged panicked
  have ran : router.run (router.pipeline request) { capture, world } 0 (router.arrival context request) request =
      router.recover (router.pipeline request).args { capture, world } request
        (router.chain capture world context request) panic :=
    run_of_panicked ((congrArg Course.outcome chain_eq).trans panicked)
  have course_eq := course_of_returned (congrArg Course.outcome ran)
  rw [ran, chain_eq, recover, Course.returned, Course.precede, List.append_nil] at course_eq
  rw [dispatch, course_eq]
  exact ⟨_, rfl⟩

/-- What lies inside the recording stage is not cut, for no deadline lies around it. -/
theorem below_ends (router : Router) (capture : Capture) (world : World) (context : Context) (request : Request)
    (inner : List Stage) :
    (∃ response, (router.below capture world context request inner).outcome = .returned response) ∨
      ∃ panic, (router.below capture world context request inner).outcome = .panicked panic := by
  have uncut : (router.below capture world context request inner).outcome ≠ .cut := Station.uncut_course rfl
  cases outcome : (router.below capture world context request inner).outcome with
  | returned response => exact .inl ⟨response, rfl⟩
  | panicked panic => exact .inr ⟨panic, rfl⟩
  | cut => exact absurd outcome uncut

/-- A recorded request is closed by exactly one record, behind all others, unless its chain panicked. -/
theorem completes (router : Router) (capture : Capture) (world : World) (context : Context) (request : Request)
    (logged : (router.pipeline request).stages = .logging :: inner) (once : .logging ∉ inner)
    (kept : capture.keeps .debug) : router.Completes capture world context request inner where
  ends := router.below_ends capture world context request inner
  closed response returned := exists_closing_record logged kept returned
  unclosed panic panicked := events_dispatch_of_panicked logged panicked
  counted silent := by
    have inside : completions (router.below capture world context request inner).events = 0 := by
      apply completions_eq_zero
      refine Station.noneCompletes_course once (fun call entry logs => silent entry (.handler call logs))
        fun stage present entry logs => silent entry (.stage stage ?_ logs)
      rw [logged]
      exact List.mem_cons_of_mem _ present
    rcases router.below_ends capture world context request inner with ⟨response, returned⟩ | ⟨panic, panicked⟩
    · obtain ⟨record, closes, events⟩ := exists_closing_record logged kept returned
      rw [events, completions_append, inside, returned]
      simp [completions, records, closes.message]
    · obtain ⟨scene, events⟩ := events_dispatch_of_panicked logged panicked
      rw [events, completions_append, inside, panicked, Nat.zero_add]
      exact completions_eq_zero
        (Scene.recordsAll_loggedAll fun entry present _ => silent entry (.panicHandler _ _ _ present))
  marked response returned := (Station.timedOut_iff returned).trans (Station.returnsMarked_iff _)
  deadlines leaves response returned := by
    refine (Station.timedOut_iff returned).trans
      (Station.returnsMarked_iff_of_leaves leaves.handler fun stage present => leaves.stage stage ?_)
    rw [logged]
    exact List.mem_cons_of_mem _ present

/-- A stage that keeps nothing of the response that it gets. -/
def replacing : CallerStage :=
  .acting "replacing" (fun _ => []) fun _ _ => Process.done {}

/-- A route that rests beyond a deadline of its own, with a stage around it that replaces the response. -/
def replaced : Route where
  path := "/a"
  handler call := (Handler.status Status.ok call).after [.rest 20]
  stages := [.caller replacing, .timeout (.ofMillis 10)]

theorem completes_replaced :
    (make ⟨{}, ⟨[], 8017⟩, HeaderName.requestId⟩ [replaced]).Completes ⟨some .debug⟩ {} {} broughtAlong
      [.timeout (.ofSeconds 60), .caller replacing, .timeout (.ofMillis 10)] :=
  completes _ _ _ _ _ rfl (by simp) (by decide)

/-- The deadline elapsed, but the record does not say so, for its answer was not passed on. -/
example : ((records ((make ⟨{}, ⟨[], 8017⟩, HeaderName.requestId⟩ [replaced]).dispatch ⟨some .debug⟩ {} {}
      broughtAlong).events).map fun record => (record.entry.message, record.entry.level)) =
    [("handler deadline elapsed", .warn), ("response", .error), ("request completed", .debug)] := by
  rfl

end Router

end ServiceHost
