import ServiceHost.Proofs.Exchange.Limit
import ServiceHost.Proofs.Metrics.Conservation

/-!
Interruptions: what a deadline around a whole request leaves of it. What is answered in time is answered as without
the deadline. Of anything else remains what happened up to the deadline, and the measured passes that are open then end
without an answer.
-/

namespace ServiceHost

open Http Log Metrics

/-- The number of measured passes that began among some events and did not end. -/
def openPasses (events : List Event) : Nat :=
  (marks events).countP Mark.isBegin - (marks events).countP (!·.isBegin)

/-- What happened up to a millisecond, including it, at which the open passes of an endpoint end without an answer. -/
def interrupted (events : List Event) (own : Nat) (endpoint : Endpoint) : List Event :=
  let kept := events.filter (·.time ≤ own)
  kept ++ List.replicate (openPasses kept) ⟨own, .ended endpoint none⟩

/-- A course next to the one under a deadline, with what remains of it. -/
structure Course.Interrupted (own : Nat) (endpoint : Endpoint) (whole cut : Course Response) : Prop where
  cutAt : whole.CutAt own cut
  events : own < whole.finish → cut.events = interrupted whole.events own endpoint

variable {own now : Nat} {endpoint : Endpoint} {events : List Event} {scene : Scene} {context : Context}

theorem filter_of_late (late : ∀ event ∈ events, own < event.time) : events.filter (·.time ≤ own) = [] :=
  List.filter_eq_nil_iff.mpr fun event member => by simpa using late event member

/-- Nothing remains of what happens later. -/
theorem interrupted_of_late (late : ∀ event ∈ events, own < event.time) : interrupted events own endpoint = [] := by
  rw [interrupted, filter_of_late late]
  rfl

/-- What happens behind the deadline does not matter. -/
theorem interrupted_append {behind : List Event} (late : ∀ event ∈ behind, own < event.time) :
    interrupted (events ++ behind) own endpoint = interrupted events own endpoint := by
  rw [interrupted, List.filter_append, filter_of_late late, List.append_nil, interrupted]

/-- Nothing happens behind the deadline. -/
theorem time_of_mem_interrupted {event : Event} (member : event ∈ interrupted events own endpoint) :
    event.time ≤ own := by
  rcases List.mem_append.mp member with kept | lost
  · simpa using (List.mem_filter.mp kept).2
  · rw [List.eq_of_mem_replicate lost]

/-- What is observed up to a millisecond is what is observed of the deeds up to it. -/
theorem Chronicle.events_upTo (chronicle : Chronicle) (own : Nat) :
    Chronicle.events (chronicle.upTo own) = (Chronicle.events chronicle).filter (·.time ≤ own) := by
  rw [Chronicle.events, Chronicle.events, Chronicle.upTo, List.filterMap_filter, List.filter_filterMap]
  congr 1
  funext moment
  obtain ⟨time, deed⟩ := moment
  cases deed <;> simp [Moment.event?, Option.filter]

/-- To the registry a lost pass is one that ends without an answer. -/
theorem marks_lost {time lost : Nat} :
    marks (List.replicate lost ⟨time, .ended endpoint none⟩) = List.replicate lost (.ends endpoint none) :=
  List.filterMap_replicate_of_some rfl

namespace Station

variable {args : RouteArgs} {handler : Handler} {station : Station}

/-- Among the events of a run as many measured passes end as begin. -/
theorem countP_marks_course (station : Station) (args : RouteArgs) (handler : Handler) :
    (marks (station.course args handler).events).countP Mark.isBegin =
      (marks (station.course args handler).events).countP (!·.isBegin) := by
  rw [marks_course]
  simp only [List.countP_append, List.countP_map, List.countP_reverse, List.map_reverse, Function.comp_def, Pass.mark,
    Mark.isBegin, Bool.not_true, Bool.not_false, List.countP_true, List.countP_false]
  omega

/-- A deadline around a run interrupts it. -/
theorem interrupted_course (args : RouteArgs) (handler : Handler) (outlasts : station.scene.Outlasts own)
    (soon : station.now ≤ own) :
    (station.course args handler).Interrupted own args.endpoint ((station.hurried own).course args handler) := by
  refine ⟨cutAt_course args handler outlasts soon, fun _ => ?_⟩
  obtain ⟨lost, chronicle, _⟩ := exists_chronicle_hurried args handler outlasts soon
  have balance := countP_marks_course (station.hurried own) args handler
  have events : ((station.hurried own).course args handler).events =
      (station.course args handler).events.filter (·.time ≤ own) ++
        List.replicate lost ⟨own, .ended args.endpoint none⟩ := by
    rw [(events_context_course (station.hurried own)).1, chronicle, Chronicle.events_append, Chronicle.events_upTo,
      ← (events_context_course station).1, replicate_lostPass, Chronicle.events_ofEvents]
  rw [events, marks_append, List.countP_append, List.countP_append] at balance
  have lost_eq : lost = openPasses ((station.course args handler).events.filter (·.time ≤ own)) := by
    rw [marks_lost, List.countP_replicate, List.countP_replicate, if_neg (by simp [Mark.isBegin]),
      if_pos (by rfl)] at balance
    rw [openPasses]
    omega
  rw [events, interrupted, ← lost_eq]

end Station

namespace Course

variable {whole cut : Course Response}

theorem interrupted_self (soon : whole.finish ≤ own) : whole.Interrupted own endpoint whole :=
  ⟨.rfl soon, fun late => absurd soon (Nat.not_le.mpr late)⟩

/-- What becomes of the answer in the end does not matter to an interruption. -/
theorem Interrupted.map (interrupts : whole.Interrupted own endpoint cut) (change : Response → Response) :
    (whole.map change).Interrupted own endpoint (cut.map change) := by
  rcases Nat.lt_or_ge own whole.finish with late | soon
  · obtain ⟨outcome, finish⟩ := interrupts.cutAt.late late
    have beyond : own < (whole.map change).finish := late.trans_eq finish_map.symm
    have stopped : (cut.map change).outcome = .cut := by rw [Course.map, andThen, outcome]
    exact ⟨⟨fun inTime => absurd beyond (Nat.not_lt.mpr inTime), fun _ => ⟨stopped, finish_map.trans finish⟩⟩,
      fun _ => by rw [events_map, events_map, interrupts.events late]⟩
  · rw [interrupts.cutAt.inTime soon]
    exact interrupted_self (finish_map.trans_le soon)

end Course

namespace Router

variable {router : Router} {request : Request}

/-- To recover from a panic takes place at once, behind everything else. -/
theorem exists_events_run (router : Router) (scene : Scene) (now : Nat) (context : Context) (request : Request) :
    ∃ behind, (router.run (router.pipeline request) scene now (router.arrival context request) request).events =
        (router.chainFrom scene now context request).events ++ behind ∧
      ∀ event ∈ behind, event.time = (router.chainFrom scene now context request).finish := by
  cases outcome : (router.chainFrom scene now context request).outcome with
  | panicked panic =>
    have recovered : router.run (router.pipeline request) scene now (router.arrival context request) request =
        router.recover (router.pipeline request).args scene request (router.chainFrom scene now context request)
          panic := run_of_panicked outcome
    rw [recovered, recover, Course.events_precede, Course.returned, List.append_nil]
    refine ⟨_, rfl, fun event member => ?_⟩
    obtain ⟨record, rfl⟩ := Scene.exists_record_of_mem_loggedAll member
    rfl
  | returned | cut =>
    have calm : router.run (router.pipeline request) scene now (router.arrival context request) request =
        router.chainFrom scene now context request := run_of_calm fun panic panicked => by
      cases outcome.symm.trans panicked
    exact ⟨[], by rw [calm, List.append_nil], List.forall_mem_nil _⟩

/-- Where a chain runs the same under a deadline, a panic is recovered the same. -/
theorem run_congr
    (same : router.chainFrom (scene.hurried own) now context request = router.chainFrom scene now context request) :
    router.run (router.pipeline request) (scene.hurried own) now (router.arrival context request) request =
      router.run (router.pipeline request) scene now (router.arrival context request) request := by
  have ran : (router.pipeline request).run (scene.hurried own) now (router.arrival context request) request =
      (router.pipeline request).run scene now (router.arrival context request) request := same
  rw [run, run, ran]
  rfl

/-- A deadline around a request interrupts it. -/
theorem interrupted_course (context : Context) (request : Request) (outlasts : scene.Outlasts own) (soon : now ≤ own) :
    (router.course scene now context request).Interrupted own (router.pipeline request).args.endpoint
      (router.course (scene.hurried own) now context request) := by
  rw [course_eq_map, course_eq_map]
  refine Course.Interrupted.map ?_ (router.closing request)
  have interrupts : (router.chainFrom scene now context request).Interrupted own
      (router.pipeline request).args.endpoint (router.chainFrom (scene.hurried own) now context request) :=
    Station.interrupted_course _ _ outlasts soon
  have finish := router.finish_run scene now context request
  rcases Nat.lt_or_ge own (router.chainFrom scene now context request).finish with late | inTime
  · obtain ⟨outcome, stopped⟩ := interrupts.cutAt.late late
    have ran : router.run (router.pipeline request) (scene.hurried own) now (router.arrival context request) request =
        router.chainFrom (scene.hurried own) now context request :=
      run_of_calm fun panic panicked => by cases outcome.symm.trans panicked
    obtain ⟨behind, events, recovered⟩ := router.exists_events_run scene now context request
    have beyond : ∀ event ∈ behind, own < event.time := fun event member => late.trans_eq (recovered event member).symm
    rw [ran]
    refine ⟨⟨fun soon => absurd late (Nat.not_lt.mpr (finish ▸ soon)), fun _ => ⟨outcome, stopped⟩⟩, fun _ => ?_⟩
    rw [interrupts.events late, events, interrupted_append beyond]
  · have same : router.run (router.pipeline request) (scene.hurried own) now (router.arrival context request) request =
        router.run (router.pipeline request) scene now (router.arrival context request) request :=
      run_congr (interrupts.cutAt.inTime inTime)
    rw [same]
    exact Course.interrupted_self (finish.trans_le inTime)

end Router

end ServiceHost
