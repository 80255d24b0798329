import ServiceHost.Metrics.Passes
import ServiceHost.Proofs.Pipeline.Parallel
import ServiceHost.Router

/-!
Hearing: one course under two captures. A capture decides which records are kept and what they show, and
nothing else. A course under any capture is the course under one that keeps everything, with the records left
out that are not severe enough.
-/

namespace ServiceHost

open Http Log

/-- The severity and the message of a record. -/
def Log.Record.headline (record : Record) : Level × String := (record.entry.level, record.entry.message)

/-- An event with its time, and of a record only the headline. -/
def Event.glimpse (event : Event) : Nat × (Happening ⊕ (Level × String)) :=
  match event.what with
  | .record record => (event.time, .inr record.headline)
  | what => (event.time, .inl what)

/-- Does a capture leave an event in? It leaves out only records. -/
def Log.Capture.hears (capture : Capture) (event : Event) : Bool :=
  match event.what with
  | .record record => capture.keeps record.entry.level
  | _ => true

/-- What a capture leaves of some events. -/
def glimpses (capture : Capture) (events : List Event) : List (Nat × (Happening ⊕ (Level × String))) :=
  (events.filter capture.hears).map Event.glimpse

/-- The events that are no records. -/
def unrecorded (events : List Event) : List Event :=
  events.filter fun event =>
    match event.what with
    | .record _ => false
    | _ => true

/-- Some events are others as a capture hears them. -/
def HeardAs (capture : Capture) (whole heard : List Event) : Prop :=
  heard.map Event.glimpse = glimpses capture whole

/-- One course is another one as a capture hears it. -/
abbrev Course.HeardBy {α : Type} (capture : Capture) (whole heard : Course α) : Prop :=
  whole.Parallel (HeardAs capture) heard

/-- The event of a glimpse, unless it is that of a record. -/
def event? : Nat × (Happening ⊕ (Level × String)) → Option Event
  | (time, .inl what) => some ⟨time, what⟩
  | (_, .inr _) => none

/-- The headline of a glimpse, if it is that of a record. -/
def headline? : Nat × (Happening ⊕ (Level × String)) → Option (Level × String)
  | (_, .inl _) => none
  | (_, .inr headline) => some headline

/-- The capture of level trace keeps everything. -/
theorem Log.Capture.keeps_trace (level : Level) : Capture.keeps ⟨some .trace⟩ level := by
  cases level <;> rfl

/-- The scene under another capture. -/
def Scene.under (scene : Scene) (capture : Capture) : Scene := { scene with capture }

variable {α : Type} {capture : Capture} {scene : Scene} {now : Nat} {context : Context}

@[simp] theorem glimpses_append (events others : List Event) :
    glimpses capture (events ++ others) = glimpses capture events ++ glimpses capture others := by
  simp [glimpses]

/-- An event that is no record is heard under every capture. -/
theorem glimpses_singleton {event : Event} (unrecorded : ∀ record, event.what ≠ .record record) :
    [event].map Event.glimpse = glimpses capture [event] := by
  have heard : capture.hears event := by
    unfold Capture.hears
    split
    · rename_i record recorded
      exact absurd recorded (unrecorded record)
    · rfl
  rw [glimpses, List.filter_cons_of_pos heard, List.filter_nil]

section Glimpses

variable (capture : Capture) (events : List Event)

theorem map_glimpse : events.map Event.glimpse = glimpses ⟨some .trace⟩ events := by
  have all : ∀ event ∈ events, Capture.hears ⟨some .trace⟩ event := by
    intro event _
    unfold Capture.hears
    split
    · exact Capture.keeps_trace _
    · rfl
  rw [glimpses, List.filter_eq_self.mpr all]

theorem filterMap_event?_glimpses : (glimpses capture events).filterMap event? = unrecorded events := by
  rw [glimpses, unrecorded, List.filterMap_map, List.filterMap_filter, ← List.filterMap_eq_filter]
  congr 1
  funext event
  obtain ⟨time, what⟩ := event
  cases what with
  | record record =>
    rw [Option.guard_eq_none_iff.mpr (by simp)]
    simp [Event.glimpse, event?]
  | note | began | ended => rfl

theorem filterMap_headline?_glimpses : (glimpses capture events).filterMap headline? =
    ((records events).filter (capture.keeps ·.entry.level)).map Record.headline := by
  rw [glimpses, records, List.filterMap_map, List.filterMap_filter, List.filter_filterMap, List.map_filterMap]
  congr 1
  funext event
  obtain ⟨time, what⟩ := event
  cases what with
  | record record =>
    by_cases kept : capture.keeps record.entry.level <;>
      simp [kept, Capture.hears, Event.glimpse, headline?, Option.filter]
  | note | began | ended => rfl

/-- The labels in the journal are those of events that are no records. -/
theorem journal_unrecorded : journal (unrecorded events) = journal events := by
  rw [journal, journal, unrecorded, List.filterMap_filter]
  congr 1
  funext event
  obtain ⟨time, what⟩ := event
  cases what <;> rfl

end Glimpses

theorem Event.Joins.heardAs : Event.Joins (HeardAs capture) where
  nil := rfl
  append front back := by
    rw [HeardAs] at front back ⊢
    rw [List.map_append, glimpses_append, front, back]
  unrecorded := glimpses_singleton

namespace Course.HeardBy

theorem unrecorded {whole heard : Course α} (heardBy : whole.HeardBy capture heard) :
    ServiceHost.unrecorded heard.events = ServiceHost.unrecorded whole.events := by
  rw [← filterMap_event?_glimpses ⟨some .trace⟩, ← map_glimpse, heardBy.events, filterMap_event?_glimpses]

theorem headlines {whole heard : Course α} (heardBy : whole.HeardBy capture heard) :
    (records heard.events).map Record.headline =
      ((records whole.events).filter (capture.keeps ·.entry.level)).map Record.headline := by
  have all : (records heard.events).filter (Capture.keeps ⟨some .trace⟩ ·.entry.level) = records heard.events :=
    List.filter_eq_self.mpr fun record _ => Capture.keeps_trace record.entry.level
  rw [← filterMap_headline?_glimpses, ← heardBy.events, map_glimpse, filterMap_headline?_glimpses, all]

end Course.HeardBy

namespace Scene

theorem measured_under (scene : Scene) (capture : Capture) :
    (scene.under capture).measured = scene.measured.under capture := rfl

theorem within_under (scene : Scene) (capture : Capture) (own : Nat) :
    (scene.under capture).within own = (scene.within own).under capture := by
  have allowed : (scene.under capture).allows own = scene.allows own := rfl
  unfold within
  rw [allowed]
  split <;> rfl

theorem capture_within (scene : Scene) (own : Nat) : (scene.within own).capture = scene.capture := by
  unfold within
  split <;> rfl

/-- An entry is heard if it is severe enough, whatever its fields and the spans around it are. -/
theorem heardAs_logged (everything : ∀ level, scene.capture.keeps level) (quiet : Scene) {entry other : Entry}
    (level : other.level = entry.level) (message : other.message = entry.message) :
    HeardAs quiet.capture (scene.logged now entry) (quiet.logged now other) := by
  have recorded : scene.logged now entry =
      [⟨now, .record ⟨scene.capture.spans scene.spans, entry⟩⟩] := by
    simp [logged, Capture.record?, everything]
  rw [HeardAs, recorded, logged, Capture.record?, level]
  by_cases kept : quiet.capture.keeps entry.level
  · simp [kept, glimpses, Capture.hears, Event.glimpse, Record.headline, level, message]
  · simp [kept, glimpses, Capture.hears]

theorem parallel_under (everything : ∀ level, scene.capture.keeps level) :
    scene.Parallel (HeardAs capture) (scene.under capture) where
  world := rfl
  deadline := rfl
  logged _ _ := heardAs_logged everything (scene.under capture) rfl rfl

end Scene

/-- A chain under a capture is the chain under one that keeps everything, as the capture hears it. -/
theorem heardBy_chain (args : RouteArgs) (handler : Handler) (stages : List Stage) {request : Request}
    (everything : ∀ level, scene.capture.keeps level) :
    (runChain args handler stages scene now context request).HeardBy capture
      (runChain args handler stages (scene.under capture) now context request) := by
  induction stages generalizing scene now context request with
  | nil =>
    have handled : (scene.run (handler ⟨scene.world, context, request⟩) now context).HeardBy capture
        ((scene.under capture).run (handler ⟨scene.world, context, request⟩) now context) :=
      (Scene.parallel_under everything).run .heardAs _
    exact ⟨handled.outcome, handled.finish, rfl, handled.events⟩
  | cons stage rest inductionHypothesis =>
    have scenes : scene.Parallel (HeardAs capture) (scene.under capture) := Scene.parallel_under everything
    cases stage with
    | caller stage =>
      refine (scenes.run .heardAs _).andThen .heardAs fun verdict now context => ?_
      cases verdict with
      | answer response => exact .returned .heardAs response
      | proceed request after =>
        exact (inductionHypothesis everything).andThen .heardAs fun response now context =>
          scenes.run .heardAs (after context response)
    | logging =>
      -- The two completion entries differ in the dump only.
      unfold runChain
      refine Course.Parallel.andThen .heardAs (inductionHypothesis everything) fun response finish context => ?_
      refine (Course.Parallel.returned .heardAs _).precede .heardAs (Scene.heardAs_logged ?_ _ ?_ ?_)
      · exact everything
      · rfl
      · rfl
    | timeout limit =>
      have inner : (runChain args handler rest (scene.within (now + limit.timerMillis)) now context request).HeardBy
          capture (runChain args handler rest ((scene.under capture).within (now + limit.timerMillis)) now context
            request) := by
        rw [Scene.within_under]
        exact inductionHypothesis (by rwa [Scene.capture_within])
      unfold runChain
      simp only
      rw [scenes.allows]
      split
      · exact scenes.expire .heardAs args limit inner
      · exact inner
    | instrument =>
      have inner : (runChain args handler rest scene.measured now context request).HeardBy capture
          (runChain args handler rest (scene.under capture).measured now context request) := by
        rw [Scene.measured_under]
        exact inductionHypothesis everything
      exact inner.measured .heardAs now args.endpoint

namespace Router

variable {request : Request} {pipeline : Pipeline}

/-- What answers a panic is heard like everything else. -/
theorem heardBy_run (router : Router) (pipeline : Pipeline) (request : Request)
    (everything : ∀ level, scene.capture.keeps level) :
    (router.run pipeline scene now context request).HeardBy capture
      (router.run pipeline (scene.under capture) now context request) := by
  have ran : (pipeline.run scene now context request).HeardBy capture
      (pipeline.run (scene.under capture) now context request) :=
    heardBy_chain pipeline.args pipeline.handler pipeline.stages everything
  unfold run
  simp only [ran.outcome]
  split
  · unfold recover
    rw [ran.finish, ran.context]
    refine (Course.Parallel.returned .heardAs _).precede .heardAs (Event.Joins.heardAs.append ran.events ?_)
    refine Scene.Parallel.loggedAll .heardAs (Scene.parallel_under ?_) _
    exact everything
  · exact ran

theorem heardBy_course (router : Router) (everything : ∀ level, scene.capture.keeps level) :
    (router.course scene now context request).HeardBy capture
      (router.course (scene.under capture) now context request) := by
  unfold course
  cases Routing.resolve router.table request.method request.target.path with
  | found entry parameters => exact router.heardBy_run entry.target request everything
  | notAllowed methods =>
    exact (router.heardBy_run _ request everything).andThen .heardAs fun response now context => .returned .heardAs _
  | notFound => exact router.heardBy_run _ request everything

end Router

end ServiceHost
