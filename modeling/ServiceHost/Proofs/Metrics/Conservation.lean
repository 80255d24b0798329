import Mathlib.Algebra.BigOperators.Ring.Finset
import ServiceHost.Proofs.Metrics.Series
import ServiceHost.Proofs.Pipeline.Deadline
import ServiceHost.Proofs.Pipeline.Onion

/-!
Conservation: requests that run side by side leave in the registry what they should. At every moment the gauge is the
number of passes through measuring stages that have begun and not ended, the series count exactly the passes that
were answered, and whatever the paths of the requests are, the labels are those of the routes.
-/

namespace ServiceHost

open Http Log Metrics

/-- A pass through a measuring stage: the endpoint under which it is measured, when it began, and how the rest of
the chain went. -/
structure Pass where
  endpoint : Endpoint
  started : Nat
  inner : Course Response

namespace Pass

/-- The status of the response that the rest of the chain returned, if it did. -/
def status? (pass : Pass) : Option Status :=
  match pass.inner.outcome with
  | .returned response => some response.status
  | _ => none

/-- The mark with which a pass ends. -/
def mark (pass : Pass) : Mark := .ends pass.endpoint (pass.inner.answered pass.started)

theorem isAnswer_mark (pass : Pass) : pass.mark.isAnswer = pass.status?.isSome := by
  unfold mark status? Course.answered
  cases pass.inner.outcome <;> rfl

theorem isAnswerOf_mark (pass : Pass) (endpoint : Endpoint) (status : Status) :
    pass.mark.isAnswerOf endpoint status = decide (pass.endpoint = endpoint ∧ pass.status? = some status) := by
  unfold mark status? Course.answered
  cases pass.inner.outcome <;> simp [Mark.isAnswerOf]

end Pass

namespace Station

variable {args : RouteArgs} {handler : Handler} {station next : Station}

/-- The pass that begins at a station, if its first stage measures. -/
def pass? (station : Station) (args : RouteArgs) (handler : Handler) : Option Pass :=
  match station.stages with
  | .instrument :: rest => some ⟨args.endpoint, station.now, (station.measured rest).course args handler⟩
  | _ => none

/-- The measured passes of a run, the outermost first. -/
def measuredPasses (station : Station) (args : RouteArgs) (handler : Handler) : List Pass :=
  (station.path args).filterMap (·.pass? args handler)

theorem exists_of_pass? {pass : Pass} (passes : station.pass? args handler = some pass) :
    ∃ rest, station.stages = .instrument :: rest ∧ pass.endpoint = args.endpoint := by
  unfold pass? at passes
  split at passes
  · rename_i rest first
    cases passes
    exact ⟨rest, first, rfl⟩
  · cases passes

/-- The stages that are left at a place in a run are the last ones of the run. -/
theorem suffix_of_mem_path {visited : Station} (visits : visited ∈ station.path args) :
    visited.stages <:+ station.stages := by
  have among : visited.stages ∈ (station.path args).map Station.stages := List.mem_map_of_mem visits
  rw [stages_path] at among
  exact (List.mem_tails _ _).mp (List.mem_of_mem_take among)

theorem pass?_of_unmeasuring (args : RouteArgs) (handler : Handler) (other : station.passes = 0) :
    station.pass? args handler = none := by
  unfold passes at other
  unfold pass?
  split
  · rename_i rest first
    simp [first] at other
  · rfl

theorem marks_of_unmeasured {chronicle : Chronicle} (unmeasured : Chronicle.Unmeasured chronicle) :
    marks (Chronicle.events chronicle) = [] := by
  rw [marks, Chronicle.events, List.filterMap_filterMap]
  refine List.filterMap_eq_nil_iff.mpr ?_
  rintro ⟨time, deed⟩ present
  obtain ⟨begins, ends⟩ := unmeasured _ present
  cases deed with
  | enters | leaves | changes => rfl
  | shows what =>
    cases what with
    | note | record => rfl
    | began => cases begins
    | ended => cases ends

theorem marks_entering (station : Station) (args : RouteArgs) (handler : Handler) :
    marks (Chronicle.events (station.entering args handler)) =
      (station.pass? args handler).toList.map fun _ => Mark.begins := by
  rcases station.passes_cases with other | ⟨_, rest, first⟩
  · rw [pass?_of_unmeasuring args handler other]
    exact marks_of_unmeasured (unmeasured_entering args handler other)
  · rw [entering, pass?, first]
    rfl

theorem marks_leaving (goesOn : station.next? args = some next) :
    marks (Chronicle.events (station.leaving args (next.course args handler))) =
      (station.pass? args handler).toList.map Pass.mark := by
  rcases station.passes_cases with other | ⟨_, rest, first⟩
  · rw [pass?_of_unmeasuring args handler other]
    exact marks_of_unmeasured (unmeasured_leaving args _ other)
  · obtain rfl : station.measured rest = next := by
      rw [next?, first] at goesOn
      exact Option.some.inj goesOn
    rw [leaving, pass?, first]
    cases ((station.measured rest).course args handler).outcome <;> rfl

/-- The marks of a run: each measured pass begins, the outermost first, and each ends, the innermost first. -/
theorem marks_course (station : Station) :
    marks (station.course args handler).events =
      ((station.measuredPasses args handler).map fun _ => Mark.begins) ++
        (station.measuredPasses args handler).reverse.map Pass.mark := by
  rw [(events_context_course station).1]
  induction station using inward_induction args with
  | step station inductionHypothesis =>
  cases goesOn : station.next? args with
  | none =>
    have none : station.pass? args handler = none :=
      pass?_of_unmeasuring args handler <| station.passes_cases.resolve_right fun ⟨_, rest, first⟩ => by
        simp [next?, first] at goesOn
    rw [chronicle_of_none goesOn, marks_entering, measuredPasses, path_of_none goesOn]
    simp [none]
  | some next =>
    rw [chronicle_of_some goesOn, measuredPasses, path_of_some goesOn, Chronicle.events_append, marks_append,
      Chronicle.events_append, marks_append, inductionHypothesis next (inward_of_next? goesOn), marks_entering,
      marks_leaving goesOn, List.filterMap_cons, measuredPasses]
    cases station.pass? args handler <;> simp

end Station

/-- How far the measured passes of a request have come, by the marks seen so far: which are under way, the outermost
first, and which are over, in the order in which they ended. Those ahead have not begun. -/
structure Progress (passes : List Pass) (seen : List Mark) (underway finished : List Pass) : Prop where
  passes : ∃ ahead, passes = underway ++ finished.reverse ++ ahead ∧ (finished = [] ∨ ahead = [])
  seen : seen = ((underway ++ finished.reverse).map fun _ => Mark.begins) ++ finished.map Pass.mark

section Progress

variable {passes underway finished : List Pass} {seen : List Mark}

theorem exists_progress
    (within : seen <+: (passes.map fun _ => Mark.begins) ++ passes.reverse.map Pass.mark) :
    ∃ underway finished, Progress passes seen underway finished := by
  have seen_eq := List.prefix_iff_eq_take.mp within
  rw [List.take_append, List.length_map] at seen_eq
  by_cases early : seen.length ≤ passes.length
  · refine ⟨passes.take seen.length, [], ⟨passes.drop seen.length, by simp, .inl rfl⟩, ?_⟩
    rw [Nat.sub_eq_zero_of_le early, List.take_zero, List.append_nil, ← List.map_take] at seen_eq
    simpa using seen_eq
  · have later : passes.length ≤ seen.length := by omega
    rw [List.take_of_length_le (by simpa using later), ← List.map_take] at seen_eq
    generalize seen.length - passes.length = number at seen_eq
    have whole : (passes.reverse.drop number).reverse ++ (passes.reverse.take number).reverse = passes := by
      rw [← List.reverse_append, List.take_append_drop, List.reverse_reverse]
    exact ⟨(passes.reverse.drop number).reverse, passes.reverse.take number,
      ⟨[], by rw [whole, List.append_nil], .inr rfl⟩, by rw [whole, seen_eq]⟩

/-- The marks of a kind: the beginnings of the passes that have begun, and the ends of those that are over. -/
theorem Progress.countP (progress : Progress passes seen underway finished) (kind : Mark → Bool) :
    seen.countP kind = (if kind .begins then underway.length + finished.length else 0) +
      finished.countP fun pass => kind pass.mark := by
  have begins (some : List Pass) :
      (some.map fun _ => Mark.begins).countP kind = if kind .begins then some.length else 0 := by
    rw [List.countP_map]
    split <;> simp_all [Function.comp_def]
  rw [progress.seen, List.countP_append, begins, List.countP_map, List.length_append, List.length_reverse]
  rfl

/-- A pass whose end has been seen is one of the passes. -/
theorem Progress.exists_pass {endpoint : Endpoint} {answered : Option (Status × Duration)}
    (progress : Progress passes seen underway finished) (present : .ends endpoint answered ∈ seen) :
    ∃ pass ∈ passes, pass.endpoint = endpoint := by
  rw [progress.seen] at present
  rcases List.mem_append.mp present with begins | ends
  · obtain ⟨_, _, other⟩ := List.mem_map.mp begins
    cases other
  · obtain ⟨pass, inside, marked⟩ := List.mem_map.mp ends
    obtain ⟨ahead, whole, _⟩ := progress.passes
    cases marked
    exact ⟨pass, by simp [whole, inside], rfl⟩

/-- Where all marks of the passes have been seen, none is under way. -/
theorem Progress.underway_eq_nil
    (progress : Progress passes ((passes.map fun _ => Mark.begins) ++ passes.reverse.map Pass.mark) underway finished) :
    underway = [] := by
  obtain ⟨ahead, whole, _⟩ := progress.passes
  have lengths := congrArg List.length progress.seen
  have parts := congrArg List.length whole
  simp only [List.length_append, List.length_map, List.length_reverse] at lengths parts
  exact List.eq_nil_of_length_eq_zero (by omega)

end Progress

/-! ### Requests side by side -/

/-- A request as it is handed to a router: in a scene, at a millisecond and with a context. -/
structure Handover where
  scene : Scene
  now : Nat
  context : Context
  request : Request

namespace Router

variable {router : Router}

/-- The course of a request. -/
def courseOf (router : Router) (handover : Handover) : Course Response :=
  router.course handover.scene handover.now handover.context handover.request

/-- The measured passes of a request, the outermost first. -/
def passesOf (router : Router) (handover : Handover) : List Pass :=
  let pipeline := router.pipeline handover.request
  Station.measuredPasses
    ⟨pipeline.stages, handover.scene, handover.now, router.arrival handover.context handover.request, handover.request⟩
    pipeline.args pipeline.handler

theorem marks_loggedAll {scene : Scene} {now : Nat} (entries : List Entry) :
    marks (scene.loggedAll now entries) = [] := by
  refine List.filterMap_eq_nil_iff.mpr fun event present => ?_
  obtain ⟨record, rfl⟩ := Scene.exists_record_of_mem_loggedAll present
  rfl

theorem marks_courseOf (router : Router) (handover : Handover) :
    marks (router.courseOf handover).events =
      ((router.passesOf handover).map fun _ => Mark.begins) ++ (router.passesOf handover).reverse.map Pass.mark := by
  have ran : marks (router.run (router.pipeline handover.request) handover.scene handover.now
      (router.arrival handover.context handover.request) handover.request).events =
        ((router.passesOf handover).map fun _ => Mark.begins) ++
          (router.passesOf handover).reverse.map Pass.mark := by
    rw [passesOf, ← Station.marks_course]
    unfold run
    simp only
    split
    · show marks ((_ ++ _) ++ []) = _
      rw [List.append_nil, marks_append, marks_loggedAll, List.append_nil]
      rfl
    · rfl
  unfold courseOf
  rcases router.course_cases handover.scene handover.now handover.context handover.request with same | ⟨methods, told⟩
  · rw [same, ran]
  · rw [told, Course.events_map, ran]

end Router

section Sharing

variable {Number : Type} [DecidableEq Number]

/-- What happened to one of several requests, in a history of all of them. -/
def share (number : Number) (history : List (Number × Event)) : List Event :=
  (history.filter (·.1 = number)).map Prod.snd

theorem share_cons (number owner : Number) (event : Event) (history : List (Number × Event)) :
    share number ((owner, event) :: history) =
      if owner = number then event :: share number history else share number history := by
  unfold share
  by_cases same : owner = number <;> simp [same]

/-- Every mark of a history is that of one request. -/
theorem countP_marks_eq_sum [Fintype Number] (kind : Mark → Bool) (history : List (Number × Event)) :
    (marks (history.map Prod.snd)).countP kind = ∑ number, (marks (share number history)).countP kind := by
  induction history with
  | nil => simp [share, marks]
  | cons entry history inductionHypothesis =>
    obtain ⟨owner, event⟩ := entry
    have split (number : Number) : (marks (share number ((owner, event) :: history))).countP kind =
        (if owner = number then (marks [event]).countP kind else 0) + (marks (share number history)).countP kind := by
      rw [share_cons]
      split
      · rw [marks_cons, List.countP_append]
      · rw [Nat.zero_add]
    rw [List.map_cons, marks_cons, List.countP_append, inductionHypothesis]
    simp only [split, Finset.sum_add_distrib, Finset.sum_ite_eq, Finset.mem_univ, if_true]

theorem exists_mem_share {mark : Mark} {history : List (Number × Event)}
    (present : mark ∈ marks (history.map Prod.snd)) : ∃ number, mark ∈ marks (share number history) := by
  obtain ⟨event, happened, marked⟩ := List.mem_filterMap.mp present
  obtain ⟨⟨number, event⟩, inside, rfl⟩ := List.mem_map.mp happened
  refine ⟨number, List.mem_filterMap.mpr ⟨event, List.mem_map.mpr ⟨(number, event), ?_, rfl⟩, marked⟩⟩
  exact List.mem_filter.mpr ⟨inside, by simp⟩

end Sharing

/-- What the registry holds after some events of requests that run side by side, with the passes of each request that
are under way then and those that are over. -/
structure Conserves {Number : Type} [DecidableEq Number] [Fintype Number] (router : Router)
    (requests : Number → Handover) (history : List (Number × Event)) (underway finished : Number → List Pass)
    (registry : Registry) : Prop where
  progress : ∀ number,
    Progress (router.passesOf (requests number)) (marks (share number history)) (underway number) (finished number)
  /-- The gauge is the number of passes that have begun and not ended. -/
  gauge : registry.inFlight.getD 0 = ∑ number, ((underway number).length : Int)
  /-- It is back at zero when all that happens to the requests has happened. -/
  settled : (∀ number, share number history = (router.courseOf (requests number)).events) →
    registry.inFlight.getD 0 = 0
  /-- A series counts the passes whose inner chain returned with its status. -/
  requests : ∀ endpoint status, registry.requestCount endpoint status =
    ∑ number, (finished number).countP fun pass => pass.endpoint = endpoint ∧ pass.status? = some status
  /-- At every endpoint as many durations are observed as requests are counted, and no series stands twice. -/
  agrees : registry.Agrees
  /-- A pass that panicked or was cut is counted nowhere. -/
  answered : registry.answered = ∑ number, (finished number).countP fun pass => pass.status?.isSome
  /-- Every label is the method and the pattern of a route. -/
  labels : ∀ endpoint ∈ registry.endpoints, ∃ route ∈ router.routes, endpoint = ⟨route.method.name, route.path⟩

namespace Router

variable {router : Router} {Number : Type} [DecidableEq Number] [Fintype Number] {requests : Number → Handover}
  {history : List (Number × Event)}

/-- A fallback measures nothing. -/
theorem not_mem_fallbackPipeline {config : Config} (description : String) (handler : Handler) :
    .instrument ∉ (config.fallbackPipeline description handler).stages := by
  have untimed : Duration.zero.isZero := by decide
  simp only [Config.fallbackPipeline, Assembly.build, Assembly.stages, untimed]
  split <;> simp

/-- A pass is measured under the method and the pattern of a route. -/
theorem exists_route_of_mem_passesOf {handover : Handover} {pass : Pass} (present : pass ∈ router.passesOf handover) :
    ∃ route ∈ router.routes, pass.endpoint = ⟨route.method.name, route.path⟩ := by
  obtain ⟨visited, visits, passes⟩ := List.mem_filterMap.mp present
  obtain ⟨rest, first, measured⟩ := Station.exists_of_pass? passes
  have among : .instrument ∈ (router.pipeline handover.request).stages :=
    (Station.suffix_of_mem_path visits).mem (first ▸ List.mem_cons_self)
  rw [measured]
  unfold pipeline at among ⊢
  split at among
  · rename_i entry _ found
    obtain ⟨route, known, rfl⟩ := List.mem_map.mp (Routing.mem_of_resolveFrom found)
    exact ⟨route, known, rfl⟩
  · exact absurd among (not_mem_fallbackPipeline _ _)
  · exact absurd among (not_mem_fallbackPipeline _ _)

/-- Requests that run side by side leave in the registry what they should, at every moment. -/
theorem conserves (side : ∀ number, share number history <+: (router.courseOf (requests number)).events) :
    ∃ underway finished,
      Conserves router requests history underway finished (Registry.empty.absorbAll (history.map Prod.snd)) := by
  have each (number : Number) : ∃ underway finished,
      Progress (router.passesOf (requests number)) (marks (share number history)) underway finished := by
    refine exists_progress ?_
    rw [← marks_courseOf]
    exact (side number).filterMap Event.mark?
  choose underway finished progress using each
  have counted (kind : Mark → Bool) : (marks (history.map Prod.snd)).countP kind =
      ∑ number, ((if kind .begins then (underway number).length + (finished number).length else 0) +
        (finished number).countP fun pass => kind pass.mark) := by
    rw [countP_marks_eq_sum]
    exact Finset.sum_congr rfl fun number _ => (progress number).countP kind
  have gauge : (Registry.empty.absorbAll (history.map Prod.snd)).inFlight.getD 0 =
      ∑ number, ((underway number).length : Int) := by
    have begun : (marks (history.map Prod.snd)).countP Mark.isBegin =
        ∑ number, ((underway number).length + (finished number).length) := by
      simp [counted, Mark.isBegin, Pass.mark]
    have ended : (marks (history.map Prod.snd)).countP (!·.isBegin) = ∑ number, (finished number).length := by
      simp [counted, Mark.isBegin, Pass.mark]
    have atRest : Registry.empty.inFlight.getD 0 = 0 := rfl
    rw [Registry.absorbAll_eq, Registry.gauge_foldl, begun, ended, Finset.sum_add_distrib, atRest]
    push_cast
    omega
  refine ⟨underway, finished, progress, gauge, ?_, ?_, ?_, ?_, ?_⟩
  · intro whole
    rw [gauge]
    refine Finset.sum_eq_zero fun number _ => ?_
    have ended := progress number
    rw [whole number, marks_courseOf] at ended
    rw [ended.underway_eq_nil]
    rfl
  · intro endpoint status
    rw [Registry.absorbAll_eq, Registry.requestCount_foldl, counted]
    simp only [Pass.isAnswerOf_mark]
    exact (Nat.zero_add _).trans (Finset.sum_congr rfl fun number _ => Nat.zero_add _)
  · rw [Registry.absorbAll_eq]
    refine Registry.Agrees.foldl ?_ _
    exact ⟨List.nodup_nil, List.nodup_nil, fun _ => rfl⟩
  · rw [Registry.absorbAll_eq, Registry.answered_foldl, counted]
    simp only [Pass.isAnswer_mark]
    exact (Nat.zero_add _).trans (Finset.sum_congr rfl fun number _ => Nat.zero_add _)
  · rw [Registry.absorbAll_eq]
    refine Registry.endpoints_foldl (List.forall_mem_nil _) fun endpoint answered present => ?_
    obtain ⟨number, inside⟩ := exists_mem_share present
    obtain ⟨pass, among, rfl⟩ := (progress number).exists_pass inside
    exact exists_route_of_mem_passesOf among

/-- Routes behind measuring stages: one answers, one panics, and one takes longer than it may. -/
def measured : Router :=
  .make ⟨{}, ⟨[], 8017⟩, HeaderName.requestId⟩
    [{ path := "/users/\x7bid\x7d", stages := [.instrument], handler := Handler.status Status.ok },
      { path := "/fail", stages := [.instrument], handler := Handler.panicking .other },
      { path := "/slow", timeout := some (.ofSeconds 1), stages := [.instrument],
        handler := Handler.afterActs [.rest 2000] (Handler.status Status.ok) }]

/-- Four requests for the measured routes. -/
def asked (number : Fin 4) : Handover where
  scene := { capture := .off, world := {} }
  now := 0
  context := {}
  request := { target := .origin ⟨["/users/7", "/users/8", "/fail", "/slow"].get number, none⟩ }

/-- The first request is still under way when the others are over. -/
def sideBySide : List (Fin 4 × Event) :=
  ((measured.courseOf (asked 0)).events.take 1).map (0, ·) ++ (measured.courseOf (asked 2)).events.map (2, ·) ++
    (measured.courseOf (asked 1)).events.map (1, ·) ++ (measured.courseOf (asked 3)).events.map (3, ·)

theorem conserves_sideBySide :
    (∀ number, share number sideBySide <+: (measured.courseOf (asked number)).events) ∧
      ∃ underway finished,
        let registry := Registry.empty.absorbAll (sideBySide.map Prod.snd)
        Conserves measured asked sideBySide underway finished registry ∧ registry.inFlight.getD 0 = 1 ∧
          registry.requestCount ⟨"GET", "/users/\x7bid\x7d"⟩ Status.ok = 1 ∧
          registry.requests.length = 1 ∧ registry.durations.length = 1 := by
  have side : ∀ number, share number sideBySide <+: (measured.courseOf (asked number)).events := by
    intro number
    match number with
    | 0 => exact ⟨(measured.courseOf (asked 0)).events.drop 1, rfl⟩
    | 1 => exact ⟨[], rfl⟩
    | 2 => exact ⟨[], rfl⟩
    | 3 => exact ⟨[], rfl⟩
  obtain ⟨underway, finished, conserved⟩ := conserves side
  exact ⟨side, underway, finished, conserved, by decide +kernel, by decide +kernel, by decide +kernel,
    by decide +kernel⟩

end Router

end ServiceHost
