import ServiceHost.Exchange
import ServiceHost.Handlers
import ServiceHost.Proofs.Exchange.Interruption
import ServiceHost.Proofs.Pipeline.Delay

/-!
Compositions: how the deadlines of an exchange act together. The one for the body decides which answer is due and when,
the limit of the request lies within that answer, and the one for the answer lets it through as it is or breaks the
exchange off.
-/

namespace ServiceHost

open Http Log Net Metrics

/-- When the body is there or fails, if it ever does. -/
def Arrival.time? : Arrival → Option Nat
  | .complete time _ => some time
  | .broken time _ => some time
  | .never => none

namespace Exchange

/-- An answer that is due: when, which one, and what happens on the way to it. -/
structure Answer where
  time : Nat
  response : Response
  events : List Event

/-- The answer with a bare status, at once and behind some entries. No stage and no handler sees the request. -/
def bareAnswer (scene : Scene) (time : Nat) (context : Context) (entries : List Entry) (status : Status) : Answer where
  time
  response := (Envelope.send scene.world.clock context status .status).response
  events := scene.loggedAll time (entries ++ (Envelope.send scene.world.clock context status .status).entries)

/-- The answer of a router that gets the request at a millisecond: all that happens when it gets it at the start, that
much later. -/
def routedAnswer (router : Router) (scene : Scene) (time : Nat) (context : Context) (request : Request) : Answer :=
  let dispatch := (router.course scene 0 context request).dispatch
  { time := time + dispatch.finish
    response := dispatch.response
    events := dispatch.events.map (·.delay time) }

/-- Where the requests on a connection run, with no deadline for their answers. -/
def calm (router : Router) (capture : Capture) (world : World) : Scene :=
  { scene router capture world with deadline := none }

/-- Which answer is due, from the deadline for the body and the arrival of the body alone. -/
inductive Due (router : Router) (capture : Capture) (world : World) (remote : Peer) (head : Request) :
    Arrival → Answer → Prop where
  /-- The body is not there at the deadline for it. -/
  | late {arrival : Arrival} {limit : Nat} (limited : router.config.options.timeouts.read.deadline? = some limit)
      (absent : ∀ time ∈ arrival.time?, limit < time) :
      Due router capture world remote head arrival
        (bareAnswer (calm router capture world) limit (.incoming world.clock remote) [] Status.requestTimeout)
  /-- The body fails in time. -/
  | broken {time : Nat} {reason : String}
      (inTime : ∀ limit ∈ router.config.options.timeouts.read.deadline?, time ≤ limit) :
      Due router capture world remote head (.broken time reason)
        (bareAnswer (calm router capture world) time (.incoming world.clock remote) [unreadEntry remote reason]
          Status.badRequest)
  /-- The body is there in time. -/
  | complete {time : Nat} {body : Bytes}
      (inTime : ∀ limit ∈ router.config.options.timeouts.read.deadline?, time ≤ limit) :
      Due router capture world remote head (.complete time body)
        (routedAnswer router (calm router capture world) time (.incoming world.clock remote) { head with body })

/-- The deadlines of an exchange act together. -/
structure Composes (router : Router) (capture : Capture) (world : World) (remote : Peer) (head : Request)
    (arrival : Arrival) : Prop where
  /-- An answer is due, unless the body never arrives and there is no deadline for it. -/
  due : (∃ answer, Due router capture world remote head arrival answer) ∨
    router.config.options.timeouts.read.deadline? = none ∧ arrival.time? = none
  /-- An answer that is there in time goes out as it is. -/
  answered : ∀ answer, Due router capture world remote head arrival answer →
    (∀ limit ∈ router.config.options.timeouts.write.deadline?, answer.time ≤ limit) →
      serve router capture world remote head arrival = ⟨.answered answer.time answer.response, answer.events⟩
  /-- Any other one is given up exactly at the deadline for it: the connection fails, and save that the open passes end
  and a record is made then, nothing happens but what had happened already. -/
  failed : ∀ answer limit, Due router capture world remote head arrival answer →
    router.config.options.timeouts.write.deadline? = some limit → limit < answer.time →
      serve router capture world remote head arrival =
          fail (calm router capture world) remote router.config.options.timeouts.write limit
            (interrupted answer.events limit (router.pipeline head).args.endpoint) ∧
        ∀ event ∈ (serve router capture world remote head arrival).events, event.time ≤ limit
  /-- Where no answer is ever due, nothing happens until the deadline for it. -/
  starved : router.config.options.timeouts.read.deadline? = none → arrival.time? = none →
    serve router capture world remote head arrival =
      match router.config.options.timeouts.write.deadline? with
      | some limit => fail (calm router capture world) remote router.config.options.timeouts.write limit []
      | none => ⟨.pending, []⟩
  /-- The answer of a route keeps the limit of the route. -/
  routed : ∀ body route parameters,
    Routing.resolve router.table head.method head.target.path = .found (router.entry route) parameters →
      router.KeepsLimit (calm router capture world) (.incoming world.clock remote) { head with body }
        (router.routeWrapping route)
  /-- The answer of a fallback has no limit. -/
  unrouted : ∀ body,
    (∀ entry parameters, Routing.resolve router.table head.method head.target.path ≠ .found entry parameters) →
      router.KeepsLimit (calm router capture world) (.incoming world.clock remote) { head with body }
        router.fallbackWrapping

end Exchange

/-- A course ends with an answer. -/
structure Course.Gives (course : Course Response) (answer : Exchange.Answer) : Prop where
  outcome : course.outcome = .returned answer.response
  finish : course.finish = answer.time
  events : course.events = answer.events

variable {router : Router} {capture : Capture} {world : World} {remote : Peer} {head request : Request}
  {arrival : Arrival} {scene : Scene} {time own : Nat} {context : Context} {entries : List Entry} {status : Status}
  {endpoint : Endpoint} {answer : Exchange.Answer} {limit : Duration}

namespace Scene

/-- Without a deadline a process that only rests takes its time. -/
theorem perform_rest (endless : scene.deadline = none) (time : Nat) (context : Context) :
    scene.perform [.rest time] 0 context = .returned () time context := by
  rw [perform, if_pos (by simp [allows, endless]), Nat.zero_add]
  rfl

/-- A process that only logs takes no time. -/
theorem perform_log (scene : Scene) (entries : List Entry) (now : Nat) (context : Context) :
    scene.perform (entries.map .log) now context = ⟨.returned (), now, context, scene.loggedAll now entries⟩ := by
  induction entries with
  | nil => rfl
  | cons entry entries inductionHypothesis =>
    rw [List.map_cons, perform, inductionHypothesis]
    rfl

/-- What comes after a rest is interrupted, too, and nothing is left of it where the rest itself is. -/
theorem interrupted_rest {next later : Nat → Context → Course Response} (endless : scene.deadline = none)
    (second : time ≤ own → (next time context).Interrupted own endpoint (later time context))
    (start : time ≤ (next time context).finish) (after : ∀ event ∈ (next time context).events, time ≤ event.time) :
    ((scene.perform [.rest time] 0 context).andThen fun _ now context => next now context).Interrupted own endpoint
      (((scene.hurried own).perform [.rest time] 0 context).andThen fun _ now context => later now context) := by
  rw [perform_rest endless, Course.returned_andThen]
  rcases Nat.lt_or_ge own time with late | soon
  · have refused : ¬(scene.hurried own).allows (0 + time) := by
      rw [allows_hurried]
      omega
    rw [perform, if_neg refused]
    refine ⟨⟨fun inTime => absurd (start.trans inTime) (Nat.not_le.mpr late), fun _ => ⟨rfl, rfl⟩⟩, fun _ => ?_⟩
    exact (interrupted_of_late fun event member => late.trans_le (after event member)).symm
  · have allowed : (scene.hurried own).allows (0 + time) := by
      rw [allows_hurried]
      omega
    rw [perform, if_pos allowed, Nat.zero_add, perform, Course.returned_andThen]
    exact second soon

end Scene

namespace Exchange

/-- A way to an answer: without a deadline it gives the answer, and a deadline interrupts it. -/
structure Leads (run : Scene → Course Response) (scene : Scene) (endpoint : Endpoint) (answer : Answer) : Prop where
  gives : (run scene).Gives answer
  interrupted : ∀ own, (run scene).Interrupted own endpoint (run (scene.hurried own))

/-- An answer by a status takes no time. -/
theorem run_bare (scene : Scene) (time : Nat) (context : Context) (entries : List Entry) (status : Status) :
    scene.run ((Envelope.send scene.world.clock context status .status).process.after (entries.map .log)) time context =
      ⟨.returned (bareAnswer scene time context entries status).response, time, context,
        (bareAnswer scene time context entries status).events⟩ := by
  rw [Scene.run, Process.after, Envelope.Answer.process, ← List.map_append, Scene.perform_log]
  simp [Course.andThen, Course.returned, Course.precede, bareAnswer]

theorem leads_answerAt (endless : scene.deadline = none) (endpoint : Endpoint) :
    Leads (answerAt · time context entries status) scene endpoint (bareAnswer scene time context entries status) := by
  have ran := run_bare scene time context entries status
  constructor
  case gives =>
    show (Course.andThen _ _).Gives _
    rw [Scene.perform_rest endless, Course.returned_andThen, ran]
    exact ⟨rfl, rfl, rfl⟩
  case interrupted =>
    intro own
    refine Scene.interrupted_rest endless (fun soon => ?_) ?_ ?_
    · have same := (run_bare (scene.hurried own) time context entries status).trans ran.symm
      rw [same, ran]
      exact Course.interrupted_self soon
    · rw [ran]
    · rw [ran]
      intro event member
      obtain ⟨record, rfl⟩ := Scene.exists_record_of_mem_loggedAll member
      exact le_rfl

theorem leads_dispatchAt (endless : scene.deadline = none) :
    Leads (dispatchAt router · time context request) scene (router.pipeline request).args.endpoint
      (routedAnswer router scene time context request) := by
  have course_eq : router.course scene time context request = (router.course scene 0 context request).delay time := by
    have delayed := router.course_delay scene 0 time context request
    rwa [Scene.delay_of_endless endless, Nat.zero_add] at delayed
  obtain ⟨response, returned⟩ := router.exists_answer 0 context request endless
  constructor
  case gives =>
    show (Course.andThen _ _).Gives _
    rw [Scene.perform_rest endless, Course.returned_andThen, course_eq]
    refine ⟨?_, Nat.add_comm _ _, rfl⟩
    simp [routedAnswer, Course.dispatch, returned]
  case interrupted =>
    intro own
    have outlasts : scene.Outlasts own := by simp [Scene.Outlasts, endless]
    refine Scene.interrupted_rest endless (router.interrupted_course context request outlasts) ?_ ?_
    · rw [course_eq]
      exact Nat.le_add_left ..
    · rw [course_eq]
      intro event member
      obtain ⟨earlier, _, rfl⟩ := List.mem_map.mp member
      exact Nat.le_add_left ..

theorem all_le_of_inTime {limit : Option Nat} (inTime : ∀ own ∈ limit, time ≤ own) :
    limit.all (time ≤ ·) = true :=
  (Option.all_eq_true _ _).mpr fun own limited => decide_eq_true (inTime own limited)

/-- Every answer that is due is what the exchange leads to. -/
theorem exists_leads (due : Due router capture world remote head arrival answer) :
    ∃ run, Leads run (calm router capture world) (router.pipeline head).args.endpoint answer ∧
      serve router capture world remote head arrival =
        ofCourse (Exchange.scene router capture world) remote router.config.options.timeouts.write
          (run (Exchange.scene router capture world)) := by
  cases due with
  | @late arrival limit limited absent =>
    refine ⟨_, leads_answerAt rfl _, ?_⟩
    unfold serve
    cases arrival with
    | never => simp only [limited]
    | complete time body | broken time reason =>
      have after : limit < time := absent time rfl
      simp [limited, Nat.not_le.mpr after]
  | broken inTime =>
    refine ⟨_, leads_answerAt rfl _, ?_⟩
    simp only [serve, all_le_of_inTime inTime, if_true]
  | @complete time body inTime =>
    have leads := @leads_dispatchAt router { head with body } (calm router capture world) time
      (.incoming world.clock remote) rfl
    refine ⟨_, leads, ?_⟩
    simp only [serve, all_le_of_inTime inTime, if_true]

/-- An answer is due, unless the body never arrives and there is no deadline for it. -/
theorem exists_due (router : Router) (capture : Capture) (world : World) (remote : Peer) (head : Request)
    (arrival : Arrival) : (∃ answer, Due router capture world remote head arrival answer) ∨
      router.config.options.timeouts.read.deadline? = none ∧ arrival.time? = none := by
  by_cases late : ∃ limit, router.config.options.timeouts.read.deadline? = some limit ∧
      ∀ time ∈ arrival.time?, limit < time
  · obtain ⟨limit, limited, absent⟩ := late
    exact .inl ⟨_, .late limited absent⟩
  · push Not at late
    cases arrival with
    | complete time body =>
      refine .inl ⟨_, .complete fun limit limited => ?_⟩
      obtain ⟨_, there, inTime⟩ := late limit limited
      cases there
      exact inTime
    | broken time reason =>
      refine .inl ⟨_, .broken fun limit limited => ?_⟩
      obtain ⟨_, there, inTime⟩ := late limit limited
      cases there
      exact inTime
    | never =>
      refine .inr ⟨Option.eq_none_iff_forall_ne_some.mpr fun limit limited => ?_, rfl⟩
      obtain ⟨_, never, _⟩ := late limit limited
      cases never

theorem scene_of_none (unlimited : router.config.options.timeouts.write.deadline? = none) :
    Exchange.scene router capture world = calm router capture world := by
  rw [Exchange.scene, calm, Exchange.scene, unlimited]

theorem scene_of_some (limited : router.config.options.timeouts.write.deadline? = some own) :
    Exchange.scene router capture world = (calm router capture world).hurried own := by
  rw [Exchange.scene, calm, Exchange.scene, limited]
  rfl

theorem ofCourse_of_gives {course : Course Response} (gives : course.Gives answer) :
    ofCourse scene remote limit course = ⟨.answered answer.time answer.response, answer.events⟩ := by
  rw [ofCourse, gives.outcome, gives.finish, gives.events]

/-- A deadline lets an answer through that is there in time. -/
theorem Leads.ofCourse_of_inTime {run : Scene → Course Response} (leads : Leads run scene endpoint answer)
    (inTime : answer.time ≤ own) :
    ofCourse (scene.hurried own) remote limit (run (scene.hurried own)) =
      ⟨.answered answer.time answer.response, answer.events⟩ := by
  rw [(leads.interrupted own).cutAt.inTime (leads.gives.finish.trans_le inTime)]
  exact ofCourse_of_gives leads.gives

/-- A deadline breaks off what leads to a later answer. -/
theorem Leads.ofCourse_of_late {run : Scene → Course Response} (leads : Leads run scene endpoint answer)
    (late : own < answer.time) :
    ofCourse (scene.hurried own) remote limit (run (scene.hurried own)) =
      fail scene remote limit own (ServiceHost.interrupted answer.events own endpoint) := by
  have late := late.trans_eq leads.gives.finish.symm
  obtain ⟨outcome, finish⟩ := (leads.interrupted own).cutAt.late late
  rw [ofCourse, outcome, finish, (leads.interrupted own).events late, leads.gives.events]
  rfl

/-- After a connection failed nothing happens. -/
theorem time_of_mem_fail {event : Event}
    (member : event ∈ (fail scene remote limit own (interrupted answer.events own endpoint)).events) :
    event.time ≤ own := by
  rcases List.mem_append.mp member with before | recorded
  · exact time_of_mem_interrupted before
  · obtain ⟨record, rfl⟩ := Scene.exists_record_of_mem_logged recorded
    exact le_rfl

/-- In every exchange the deadlines act together. -/
theorem composes (router : Router) (capture : Capture) (world : World) (remote : Peer) (head : Request)
    (arrival : Arrival) : Composes router capture world remote head arrival := by
  constructor
  case due => exact exists_due router capture world remote head arrival
  case answered =>
    intro answer due inTime
    obtain ⟨run, leads, served⟩ := exists_leads due
    rw [served]
    cases limited : router.config.options.timeouts.write.deadline? with
    | none =>
      rw [scene_of_none limited]
      exact ofCourse_of_gives leads.gives
    | some limit =>
      rw [scene_of_some limited]
      exact leads.ofCourse_of_inTime (inTime limit limited)
  case failed =>
    intro answer limit due limited late
    obtain ⟨run, leads, served⟩ := exists_leads due
    rw [scene_of_some limited, leads.ofCourse_of_late late] at served
    exact ⟨served, fun event member => time_of_mem_fail (served ▸ member)⟩
  case starved =>
    intro unlimited absent
    cases arrival with
    | complete | broken => cases absent
    | never =>
      simp only [serve, unlimited, starve]
      cases limited : router.config.options.timeouts.write.deadline? with
      | none =>
        rw [scene_of_none limited]
        rfl
      | some limit =>
        rw [scene_of_some limited]
        rfl
  case routed =>
    intro body route parameters found
    exact Router.keepsLimit _ rfl (Router.stages_of_found found)
  case unrouted =>
    intro body unfound
    exact Router.keepsLimit _ rfl (Router.stages_of_unfound unfound)

/-- A route that rests longer than it may, behind deadlines for the body and for the answer. -/
def hasty (read write : Nat) : Router :=
  .make ⟨{ timeouts := { read := .ofMillis read, write := .ofMillis write } }, ⟨[], 8017⟩, HeaderName.requestId⟩
    [{ path := "/a", timeout := some (.ofMillis 10)
       handler := Handler.afterActs [.rest 11] (Handler.status Status.ok) }]

/-- What comes exactly at a deadline is in time: the answer of the limit, the body, and the answer to a late body. -/
example :
    let head : Request := { target := .origin ⟨"/a", none⟩ }
    let served (write : Nat) (arrival : Arrival) :=
      match (serve (hasty 8 write) .off {} (.v4 ⟨127, 0, 0, 1⟩ 80) head arrival).reply with
      | .answered time response => some (time, some response.status)
      | .failed time _ => some (time, none)
      | .pending => none
    served 15 (.complete 5 []) = some (15, some Status.serviceUnavailable) ∧
      served 14 (.complete 5 []) = some (14, none) ∧
      served 18 (.complete 8 []) = some (18, some Status.serviceUnavailable) ∧
      served 8 (.complete 9 []) = some (8, some Status.requestTimeout) ∧
      served 7 .never = some (7, none) := by
  decide

end Exchange

end ServiceHost
