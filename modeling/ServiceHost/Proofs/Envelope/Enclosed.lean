import ServiceHost.Metrics.Passes
import ServiceHost.Proofs.Routing.Resolution

/-!
Enclosed courses: courses that end with an answer in the envelope, and whose last record of an answer is the one of
this answer. A course stays enclosed through everything that happens to an answer on its way out: the recording
stage adds the trace header and one more record, and the methods of a path may be told.
-/

namespace ServiceHost

open Http Log

variable {capture : Capture} {spans : List Span} {clock : Timestamp} {context : Context} {status : Status}
  {payload : Envelope.Payload} {events others : List Event} {log more : List Record} {now : Nat} {scene : Scene}

/-! ### Records -/

theorem records_append (events others : List Event) : records (events ++ others) = records events ++ records others :=
  List.filterMap_append

/-- What is kept of an entry is its record. -/
theorem records_logged {entry : Entry} (kept : scene.capture.keeps entry.level) :
    records (scene.logged now entry) = [⟨scene.capture.spans scene.spans, entry⟩] := by
  simp [records, Scene.logged, Capture.record?, kept]

theorem entry_of_mem_logged {entry : Entry} {record : Record} (member : record ∈ records (scene.logged now entry)) :
    record.entry = entry := by
  obtain ⟨event, logged, found⟩ := List.mem_filterMap.mp member
  obtain ⟨kept, recorded, rfl⟩ := List.mem_map.mp logged
  obtain ⟨_, whole⟩ := Option.ite_none_right_eq_some.mp (Option.mem_toList.mp recorded)
  obtain rfl : kept = record := Option.some.inj found
  exact (Option.some.inj whole) ▸ rfl

/-- A record tells of an answer: with which status, in which class, with which text, and how severe it is. -/
structure Log.Record.TellsOf (record : Record) (status : Status) (payload : Envelope.Payload) : Prop where
  message : record.entry.message = "response"
  level : record.entry.level = if 400 ≤ status.code then .error else .debug
  code : record.field? "response_code" = some (.number status.code)
  classified : record.field? "response_status" = some (.text status.classify.label)
  data : record.field? "response_data" = some (.text payload.content)

/-- The entry of an answer tells of it within whatever spans. -/
theorem tellsOf_entry (spans : List Span) (clock : Timestamp) (context : Context) (status : Status)
    (payload : Envelope.Payload) :
    Record.TellsOf ⟨spans, Envelope.entry clock context status payload⟩ status payload := by
  have own (name : String) (value : Value)
      (found : (Envelope.entry clock context status payload).fields.reverse.lookup name = some value) :
      Record.field? ⟨spans, Envelope.entry clock context status payload⟩ name = some value := by
    rw [Record.field?, Record.fields, List.reverse_append, List.lookup_append, found, Option.some_or]
  exact ⟨rfl, rfl, own _ _ rfl, own _ _ rfl, own _ _ rfl⟩

/-- The last record of an answer tells of the one with a status and a payload. -/
def EndsWithAnswer (log : List Record) (status : Status) (payload : Envelope.Payload) : Prop :=
  ∃ front record back, log = front ++ record :: back ∧ record.TellsOf status payload ∧
    ∀ later ∈ back, later.entry.message ≠ "response"

namespace EndsWithAnswer

theorem precede (ends : EndsWithAnswer log status payload) (more : List Record) :
    EndsWithAnswer (more ++ log) status payload := by
  obtain ⟨front, record, back, rfl, tells, none⟩ := ends
  exact ⟨more ++ front, record, back, (List.append_assoc ..).symm, tells, none⟩

theorem follow (ends : EndsWithAnswer log status payload)
    (others : ∀ later ∈ more, later.entry.message ≠ "response") : EndsWithAnswer (log ++ more) status payload := by
  obtain ⟨front, record, back, rfl, tells, none⟩ := ends
  exact ⟨front, record, back ++ more, by simp, tells, List.forall_mem_append.mpr ⟨none, others⟩⟩

end EndsWithAnswer

/-- Where debugging is captured the record of every answer is kept. -/
theorem endsWithAnswer_logged (kept : scene.capture.keeps .debug) (now : Nat) (clock : Timestamp) (context : Context)
    (status : Status) (payload : Envelope.Payload) :
    EndsWithAnswer (records (scene.logged now (Envelope.entry clock context status payload))) status payload := by
  have severe : scene.capture.keeps (Envelope.severity status) := by
    unfold Envelope.severity
    split
    · exact Capture.keeps_of_keeps (by decide) kept
    · exact kept
  rw [records_logged severe]
  exact ⟨[], _, [], rfl, tellsOf_entry .., by simp⟩

theorem endsWithAnswer_loggedAll (kept : scene.capture.keeps .debug) (entries : List Entry) (now : Nat)
    (clock : Timestamp) (context : Context) (status : Status) (payload : Envelope.Payload) :
    EndsWithAnswer (records (scene.loggedAll now (entries ++ [Envelope.entry clock context status payload]))) status
      payload := by
  rw [Scene.loggedAll, List.flatMap_append, records_append, List.flatMap_singleton]
  exact (endsWithAnswer_logged kept now clock context status payload).precede _

/-! ### Answers -/

/-- The fields of every answer: those that forbid caching, and the type of the payload if it has one. -/
def Envelope.fields (payload : Payload) : List Field :=
  [(HeaderName.cacheControl, HeaderValue.noCache), (HeaderName.pragma, HeaderValue.noCachePragma),
    (HeaderName.expires, HeaderValue.expired)] ++
      (payload.contentType?.map fun contentType => (HeaderName.contentType, contentType)).toList

theorem Envelope.fields_headers (payload : Payload) : (headers payload).fields = fields payload := by
  cases payload <;> rfl

/-- The names of the fields of answers. -/
def Envelope.names : List HeaderName :=
  [HeaderName.cacheControl, HeaderName.pragma, HeaderName.expires, HeaderName.contentType]

theorem Envelope.mem_names {field : Field} (member : field ∈ fields payload) : field.1 ∈ names := by
  simp only [fields, List.mem_append, List.mem_cons, List.not_mem_nil, or_false, Option.mem_toList,
    Option.map_eq_some_iff] at member
  rcases member with (rfl | rfl | rfl) | ⟨_, _, rfl⟩ <;> simp [names]

/-- A name that is new goes to the end. -/
theorem Http.Headers.fields_set {headers : Headers} {name : HeaderName}
    (new : ∀ field ∈ headers.fields, field.1 ≠ name) (value : HeaderValue) :
    (headers.set name value).fields = headers.fields ++ [(name, value)] := by
  show setIn name value headers.fields = _
  generalize headers.fields = fields at new
  induction fields with
  | nil => rfl
  | cons field fields inductionHypothesis =>
    obtain ⟨here, later⟩ := List.forall_mem_cons.mp new
    rw [setIn, if_neg here, inductionHypothesis later, List.cons_append]

/-- A response is an answer in the envelope with some more fields behind those of the envelope. -/
structure Http.Response.IsAnswer (response : Response) (status : Status) (payload : Envelope.Payload)
    (more : List Field) : Prop where
  status : response.status = status
  headers : response.headers.fields = Envelope.fields payload ++ more
  body : response.body = Bytes.ofString payload.content

theorem Envelope.isAnswer_send (clock : Timestamp) (context : Context) (status : Status) (payload : Payload) :
    (send clock context status payload).response.IsAnswer status payload [] :=
  ⟨rfl, by rw [List.append_nil]; exact fields_headers payload, rfl⟩

/-- A header that the answer does not have yet comes behind those that it has. -/
theorem Http.Response.IsAnswer.setHeader {response : Response} {fields : List Field}
    (answers : response.IsAnswer status payload fields) {name : HeaderName} (other : name ∉ Envelope.names)
    (new : ∀ field ∈ fields, field.1 ≠ name) (value : HeaderValue) :
    (response.setHeader name value).IsAnswer status payload (fields ++ [(name, value)]) := by
  refine ⟨answers.status, ?_, answers.body⟩
  have absent : ∀ field ∈ response.headers.fields, field.1 ≠ name := by
    rw [answers.headers, List.forall_mem_append]
    exact ⟨fun field member same => other (same ▸ Envelope.mem_names member), new⟩
  rw [Response.setHeader, Headers.fields_set absent, answers.headers, List.append_assoc]

/-- Telling the methods of a path adds a header behind all others. -/
theorem Http.Response.IsAnswer.announce {response : Response} {fields : List Field}
    (answers : response.IsAnswer status payload fields) (new : ∀ field ∈ fields, field.1 ≠ HeaderName.allow)
    (methods : List Method) :
    ∃ value, (Router.announce methods response).IsAnswer status payload (fields ++ [(HeaderName.allow, value)]) := by
  obtain ⟨value, writes, _⟩ := exists_listing methods
  refine ⟨value, ?_⟩
  rw [Router.announce, writes]
  exact answers.setHeader (by decide) new value

/-- A course ends with an answer in the envelope, and if debugging is captured, its last record of an answer tells
of this one. -/
structure Course.Encloses (course : Course Response) (capture : Capture) (status : Status)
    (payload : Envelope.Payload) (more : List Field) : Prop where
  answer : ∃ response, course.outcome = .returned response ∧ response.IsAnswer status payload more
  record : capture.keeps .debug → EndsWithAnswer (records course.events) status payload

/-! ### Processes -/

theorem Course.precede_andThen {α β : Type} (course : Course α) (events : List Event)
    (next : α → Nat → Context → Course β) :
    (course.precede events).andThen next = (course.andThen next).precede events := by
  obtain ⟨outcome, finish, context, own⟩ := course
  cases outcome <;> simp [andThen, precede]

theorem Scene.perform_append (scene : Scene) (acts more : List Act) (now : Nat) (context : Context) :
    scene.perform (acts ++ more) now context =
      (scene.perform acts now context).andThen fun _ now context => scene.perform more now context := by
  induction acts generalizing now context with
  | nil => simp [Scene.perform]
  | cons act acts inductionHypothesis =>
    cases act with
    | note | log =>
      rw [List.cons_append, perform, perform, inductionHypothesis, Course.precede_andThen]
    | change change => exact inductionHypothesis now (change context)
    | rest millis =>
      rw [List.cons_append, perform, perform]
      split
      · exact inductionHypothesis (now + millis) context
      · rfl

/-- Acts do not panic. -/
theorem Scene.perform_cases (scene : Scene) (acts : List Act) (now : Nat) (context : Context) :
    (scene.perform acts now context).outcome = .cut ∨ (scene.perform acts now context).outcome = .returned () := by
  induction acts generalizing now context with
  | nil => exact .inr rfl
  | cons act acts inductionHypothesis =>
    cases act with
    | note | log => exact inductionHypothesis now context
    | change change => exact inductionHypothesis now (change context)
    | rest millis =>
      rw [perform]
      split
      · exact inductionHypothesis (now + millis) context
      · exact .inl rfl

/-- A process that answers through the envelope at its end is cut before, or its course ends with the answer. -/
theorem Scene.encloses_run (scene : Scene) (acts : List Act) (now : Nat) (own context : Context) (clock : Timestamp)
    (status : Status) (payload : Envelope.Payload) :
    let course := scene.run ((Envelope.send clock own status payload).process.after acts) now context
    course.outcome = .cut ∨ course.Encloses scene.capture status payload [] := by
  intro course
  have course_eq : course = (scene.perform (acts ++ [.log (Envelope.entry clock own status payload)]) now
      context).andThen fun _ now context =>
        Course.returned (Envelope.send clock own status payload).response now context := rfl
  rw [course_eq, perform_append]
  rcases scene.perform_cases acts now context with cut | returned
  · left
    simp only [Course.andThen, cut]
  · right
    simp only [Course.andThen, returned, perform, Course.returned, Course.precede, List.append_nil]
    refine ⟨⟨_, rfl, Envelope.isAnswer_send clock own status payload⟩, fun kept => ?_⟩
    rw [records_append]
    exact (endsWithAnswer_logged kept _ clock own status payload).precede _

/-- A process that panics is cut before, or its course ends with the panic. -/
theorem Scene.panicked_run {α : Type} (scene : Scene) (process : Process α) (now : Nat) (context : Context)
    {panic : Panic} (panics : process.result = .error panic) :
    (scene.run process now context).outcome = .cut ∨ (scene.run process now context).outcome = .panicked panic := by
  rcases scene.perform_cases process.acts now context with cut | returned
  · left
    simp only [run, Course.andThen, cut]
  · right
    simp only [run, Course.andThen, returned, panics]
    rfl

/-! ### On the way out -/

/-- A deadline that cut a course answers in its place. -/
theorem Scene.encloses_expire (scene : Scene) (args : RouteArgs) (limit : Duration) {inner : Course Response}
    (cut : inner.outcome = .cut) :
    (scene.expire args limit inner).Encloses scene.capture Status.serviceUnavailable (.text "timeout") [] := by
  rw [Scene.expire, cut]
  refine ⟨⟨_, rfl, ⟨rfl, rfl, rfl⟩⟩, fun kept => ?_⟩
  rw [records_append]
  exact (endsWithAnswer_loggedAll kept [deadlineEntry args limit] ..).precede _

/-- The recording stage adds the trace header and a record that is none of an answer. -/
theorem Course.Encloses.recorded {course : Course Response} (scene : Scene)
    (encloses : course.Encloses scene.capture status payload []) {traceHeader : HeaderName}
    (other : traceHeader ∉ Envelope.names) {traceId : String} {value : HeaderValue}
    (stands : value.StandsFor traceId) (dump : Option String) (started : Nat) :
    (course.andThen fun response finish context =>
      let response := tagResponse traceHeader traceId response
      (Course.returned response finish context).precede
        (scene.logged finish (completionEntry dump (finish - started) response))).Encloses scene.capture status payload
          [(traceHeader, value)] := by
  obtain ⟨⟨response, returned, answers⟩, record⟩ := encloses
  simp only [andThen, returned, Course.returned, precede, tagResponse, stands.writes, List.append_nil]
  refine ⟨⟨_, rfl, answers.setHeader other (by simp) value⟩, fun kept => ?_⟩
  rw [records_append]
  refine (record kept).follow fun later member => ?_
  rw [entry_of_mem_logged member]
  show "request completed" ≠ "response"
  decide

/-- After a panic the answer is a bare 500 with the trace id of the context in its trace header, if it has one. -/
theorem Router.encloses_recover (router : Router) (default : router.config.options.panicHandler = none)
    (args : RouteArgs) (scene : Scene) (request : Request) (course : Course Response) (panic : Panic)
    {fields : List Field}
    (restores : ∀ response : Response, response.IsAnswer Status.internalServerError .status [] →
      (restoreTrace args course.context response).IsAnswer Status.internalServerError .status fields) :
    (router.recover args scene request course panic).Encloses scene.capture Status.internalServerError .status
      fields := by
  have handler : router.config.panicHandler = recordPanic := by rw [Config.panicHandler, default, Option.getD_none]
  rw [recover, handler]
  have answers := Envelope.isAnswer_send scene.world.clock course.context Status.internalServerError .status
  refine ⟨⟨_, rfl, restores _ answers⟩, fun kept => ?_⟩
  rw [Course.events_precede, records_append, records_append]
  refine EndsWithAnswer.follow (.precede ?_ _) (by simp [Course.returned, records])
  exact endsWithAnswer_loggedAll (by exact kept) [_] _ _ _ _ _

end ServiceHost
