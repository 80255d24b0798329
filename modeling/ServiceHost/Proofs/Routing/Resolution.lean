import Mathlib.Data.List.Basic
import ServiceHost.Proofs.Trace.Agreement

/-!
Resolution: which pipeline a request runs through, and what is told of the methods of its path. The first entry
of the table that has the method and matches the path gets the request. Where there is none, the answer names the
methods of all entries that match the path, each of them once, and a request of any of them finds its route.
-/

namespace ServiceHost

open Http Log

namespace Routing

variable {α : Type} {method : Method} {path : String} {entry : Entry α} {entries : List (Entry α)}

/-- Does the pattern of an entry match a path? -/
def Entry.covers (entry : Entry α) (path : String) : Bool :=
  (entry.pattern.match? path).isSome

/-- Does an entry have a method and cover a path? -/
def Entry.serves (entry : Entry α) (method : Method) (path : String) : Bool :=
  entry.method = method && entry.covers path

/-- The methods of the entries that cover a path, in table order. -/
def offered (entries : List (Entry α)) (path : String) : List Method :=
  (entries.filter (·.covers path)).map Entry.method

theorem offered_cons (entry : Entry α) (entries : List (Entry α)) (path : String) :
    offered (entry :: entries) path =
      if entry.covers path then entry.method :: offered entries path else offered entries path := by
  rw [offered, List.filter_cons]
  split <;> rfl

theorem mem_offered {method : Method} :
    method ∈ offered entries path ↔ ∃ entry ∈ entries, entry.serves method path := by
  simp [offered, Entry.serves, and_comm, and_left_comm]

/-- Some methods are those of a list without repetition, in the order of their first occurrence. -/
structure FirstOccurrences (distinct all : List Method) : Prop where
  mem_iff : ∀ method, method ∈ distinct ↔ method ∈ all
  ordered : distinct.Pairwise fun first second => all.idxOf first < all.idxOf second

namespace FirstOccurrences

variable {distinct all : List Method}

theorem nil : FirstOccurrences [] [] :=
  ⟨fun _ => Iff.rfl, .nil⟩

theorem nodup (occurrences : FirstOccurrences distinct all) : distinct.Nodup := by
  refine occurrences.ordered.imp fun {first second} earlier same => ?_
  rw [same] at earlier
  exact Nat.lt_irrefl _ earlier

/-- One more method is added if it has not occurred yet. -/
theorem snoc (occurrences : FirstOccurrences distinct all) (method : Method) :
    FirstOccurrences (if method ∈ distinct then distinct else distinct ++ [method]) (all ++ [method]) := by
  have earlier {other : Method} (member : other ∈ distinct) : (all ++ [method]).idxOf other = all.idxOf other :=
    List.idxOf_append_of_mem ((occurrences.mem_iff other).mp member)
  have kept : distinct.Pairwise fun first second =>
      (all ++ [method]).idxOf first < (all ++ [method]).idxOf second :=
    occurrences.ordered.imp_of_mem fun first second => by rw [earlier first, earlier second]; exact id
  split
  · rename_i known
    refine ⟨fun other => ?_, kept⟩
    rw [List.mem_append, List.mem_singleton, ← occurrences.mem_iff]
    exact ⟨.inl, fun member => member.elim id fun same => same ▸ known⟩
  · rename_i new
    refine ⟨fun other => ?_, ?_⟩
    · rw [List.mem_append, List.mem_append, occurrences.mem_iff]
    · refine List.pairwise_append.mpr ⟨kept, List.pairwise_singleton .., fun other member last atEnd => ?_⟩
      obtain rfl := List.mem_singleton.mp atEnd
      have absent : last ∉ all := fun present => new ((occurrences.mem_iff last).mpr present)
      have place : all.idxOf other < all.length :=
        List.idxOf_lt_length_iff.mpr ((occurrences.mem_iff other).mp member)
      rw [earlier member, List.idxOf_append_of_notMem absent]
      omega

end FirstOccurrences

/-- The first entry that has the method and covers the path gets the request, with what its pattern captured. -/
theorem resolveFrom_of_find? {allowed : List Method}
    (first : entries.find? (·.serves method path) = some entry) :
    ∃ parameters, entry.pattern.match? path = some parameters ∧
      resolveFrom allowed method (pathSegments path) entries = .found entry parameters := by
  induction entries generalizing allowed with
  | nil => cases first
  | cons candidate rest inductionHypothesis =>
    unfold resolveFrom
    rw [List.find?_cons] at first
    cases matched : candidate.pattern.matchFrom Parameters.empty (pathSegments path) with
    | none =>
      have passed : candidate.serves method path = false := by
        simp [Entry.serves, Entry.covers, Pattern.match?, matched]
      rw [passed] at first
      exact inductionHypothesis first
    | some parameters =>
      have covers : candidate.covers path := by simp [Entry.covers, Pattern.match?, matched]
      by_cases same : candidate.method = method
      · have serves : candidate.serves method path := by simp [Entry.serves, same, covers]
        rw [serves] at first
        obtain rfl := Option.some.inj first
        exact ⟨parameters, matched, if_pos same⟩
      · have passed : candidate.serves method path = false := by simp [Entry.serves, same]
        rw [passed] at first
        simp only [if_neg same]
        split <;> exact inductionHypothesis first

/-- Where no entry has the method and covers the path, the methods of those that cover it are gathered. -/
theorem resolveFrom_of_find?_eq_none {allowed seen : List Method}
    (none : entries.find? (·.serves method path) = none) (occurrences : FirstOccurrences allowed seen) :
    ∃ methods, FirstOccurrences methods (seen ++ offered entries path) ∧
      resolveFrom allowed method (pathSegments path) entries =
        if methods.isEmpty then .notFound else .notAllowed methods := by
  induction entries generalizing allowed seen with
  | nil => exact ⟨allowed, by simpa [offered] using occurrences, rfl⟩
  | cons candidate rest inductionHypothesis =>
    obtain ⟨refused, others⟩ := List.forall_mem_cons.mp (List.find?_eq_none.mp none)
    have later := List.find?_eq_none.mpr others
    unfold resolveFrom
    cases matched : candidate.pattern.matchFrom Parameters.empty (pathSegments path) with
    | none =>
      have uncovered : ¬candidate.covers path := by simp [Entry.covers, Pattern.match?, matched]
      rw [offered_cons, if_neg uncovered]
      exact inductionHypothesis later occurrences
    | some parameters =>
      have covers : candidate.covers path := by simp [Entry.covers, Pattern.match?, matched]
      have other : candidate.method ≠ method := fun same => refused (by simp [Entry.serves, same, covers])
      have more : seen ++ offered (candidate :: rest) path = seen ++ [candidate.method] ++ offered rest path := by
        rw [offered_cons, if_pos covers, List.append_assoc, List.singleton_append]
      obtain ⟨methods, lists, resolved⟩ := inductionHypothesis later (occurrences.snoc candidate.method)
      refine ⟨methods, more ▸ lists, ?_⟩
      rw [← resolved]
      simp only [if_neg other]
      split <;> rfl

example :
    resolve [⟨.get, Pattern.ofString "/a", 1⟩, ⟨.post, Pattern.ofString "/\x7bname\x7d", 2⟩,
      ⟨.get, Pattern.ofString "/\x7b*rest\x7d", 3⟩] ⟨"PUT", by decide⟩ "/a" = .notAllowed [.get, .post] := by
  rfl

end Routing

/-- The characters of tokens are visible. -/
theorem Http.isVisible_of_isTokenChar {c : Char} (token : isTokenChar c) : Text.isVisible c := by
  rcases Bool.or_eq_true_iff.mp token with alphanumeric | mark
  · have bounds := Text.toNat_of_isAlphanum alphanumeric
    rw [Text.isVisible_iff]
    omega
  · have marks : "!#$%&'*+-.^_\x60|~".toList.all Text.isVisible := by decide
    exact List.all_eq_true.mp marks c (List.contains_iff_mem.mp mark)

/-- A list of methods is a legal header value that reads back. -/
theorem Http.exists_listing (methods : List Method) :
    ∃ value, HeaderValue.ofString? (", ".intercalate (methods.map Method.name)) = some value ∧
      value.toString? = some (", ".intercalate (methods.map Method.name)) := by
  refine HeaderValue.exists_of_visible ?_
  have visible (method : Method) : ∀ c ∈ method.name.toList, Text.isVisible c := fun c member =>
    isVisible_of_isTokenChar (List.all_eq_true.mp (Bool.and_eq_true_iff.mp method.token).2 c member)
  have comma : ", ".toList.all Text.isVisible := by decide
  induction methods with
  | nil => simp
  | cons method rest inductionHypothesis =>
    cases rest with
    | nil => simpa using visible method
    | cons next rest =>
      rw [List.map_cons, List.map_cons, String.intercalate_cons_cons, String.toList_append, String.toList_append,
        List.forall_mem_append, List.forall_mem_append]
      exact ⟨⟨visible method, List.all_eq_true.mp comma⟩, inductionHypothesis⟩

namespace Router

variable {router : Router} {capture : Capture} {world : World} {context : Context} {request : Request}
  {scene : Scene} {now : Nat}

/-- Without a deadline around it, a run always ends with a response. -/
theorem returned_run (router : Router) (pipeline : Pipeline) (endless : scene.deadline = none) :
    ∃ response, (router.run pipeline scene now context request).outcome = .returned response := by
  have uncut : ((⟨pipeline.stages, scene, now, context, request⟩ : Station).course pipeline.args
      pipeline.handler).outcome ≠ .cut := Station.uncut_course endless
  cases outcome : (pipeline.run scene now context request).outcome with
  | returned response => exact ⟨response, run_of_returned outcome ▸ outcome⟩
  | panicked panic => exact ⟨_, congrArg Course.outcome (run_of_panicked outcome)⟩
  | cut => exact absurd outcome uncut

/-- Which pipeline answers a request, and what the answer tells of the methods of its path. -/
structure Answers (router : Router) (capture : Capture) (world : World) (context : Context) (request : Request) :
    Prop where
  /-- The first entry in table order that has the method and covers the path gets the request, with the
  parameters that its pattern captured. -/
  found : ∀ entry, router.table.find? (·.serves request.method request.target.path) = some entry →
    ∃ parameters, entry.pattern.match? request.target.path = some parameters ∧
      router.dispatch capture world context request =
        (router.run entry.target { capture, world } 0 (context.withParameters parameters) request).dispatch
  /-- Where there is none, but entries that cover the path, the fallback answers, and whatever it answered, the
  `Allow` header names the methods of these entries. With any of them the request gets to an entry. -/
  notAllowed : router.table.find? (·.serves request.method request.target.path) = none →
    (∃ entry ∈ router.table, entry.covers request.target.path) →
      ∃ methods value response,
        Routing.FirstOccurrences methods (Routing.offered router.table request.target.path) ∧
        methods.Nodup ∧ methods ≠ [] ∧ request.method ∉ methods ∧
        value.toString? = some (", ".intercalate (methods.map Method.name)) ∧
        (router.run router.config.methodNotAllowedPipeline { capture, world } 0 context request).outcome =
          .returned response ∧
        router.dispatch capture world context request =
          { (router.run router.config.methodNotAllowedPipeline { capture, world } 0 context request).dispatch with
            response := response.setHeader HeaderName.allow value } ∧
        (router.dispatch capture world context request).response.headers.values HeaderName.allow = [value] ∧
        ∀ method ∈ methods, ∃ entry ∈ router.table, ∃ parameters, entry.method = method ∧
          entry.pattern.match? request.target.path = some parameters ∧
          router.dispatch capture world context { request with method } =
            (router.run entry.target { capture, world } 0 (context.withParameters parameters)
              { request with method }).dispatch
  /-- Where no entry covers the path, the other fallback answers. -/
  notFound : (∀ entry ∈ router.table, entry.covers request.target.path = false) →
    router.dispatch capture world context request =
      (router.run router.config.notFoundPipeline { capture, world } 0 context request).dispatch

/-- The dispatch of a request whose method and path an entry serves. -/
theorem dispatch_of_find? (router : Router) (capture : Capture) (world : World) (context : Context)
    {entry : Routing.Entry Pipeline}
    (first : router.table.find? (·.serves request.method request.target.path) = some entry) :
    ∃ parameters, entry.pattern.match? request.target.path = some parameters ∧
      router.dispatch capture world context request =
        (router.run entry.target { capture, world } 0 (context.withParameters parameters) request).dispatch := by
  obtain ⟨parameters, matched, resolved⟩ := Routing.resolveFrom_of_find? first
  refine ⟨parameters, matched, ?_⟩
  rw [dispatch, course, Routing.resolve, resolved]

/-- The dispatch of a course with another response. -/
theorem dispatch_map {course : Course Response} {response : Response} (change : Response → Response)
    (returned : course.outcome = .returned response) :
    (course.map change).dispatch = { course.dispatch with response := change response } := by
  simp [Course.map, Course.andThen, returned, Course.dispatch, Course.returned, Course.precede]

/-- Every entry that covers a path serves its own method there, so that a request of it finds an entry. -/
theorem dispatch_of_mem_offered (capture : Capture) (world : World) (context : Context) (request : Request)
    {method : Method} (member : method ∈ Routing.offered router.table request.target.path) :
    ∃ entry ∈ router.table, ∃ parameters, entry.method = method ∧
      entry.pattern.match? request.target.path = some parameters ∧
      router.dispatch capture world context { request with method } =
        (router.run entry.target { capture, world } 0 (context.withParameters parameters)
          { request with method }).dispatch := by
  obtain ⟨entry, first⟩ : ∃ entry, router.table.find?
      (·.serves { request with method }.method { request with method }.target.path) = some entry :=
    Option.isSome_iff_exists.mp (List.find?_isSome.mpr (Routing.mem_offered.mp member))
  obtain ⟨parameters, matched, dispatched⟩ := router.dispatch_of_find? capture world context first
  have serves := List.find?_some first
  simp only [Routing.Entry.serves, Bool.and_eq_true, decide_eq_true_eq] at serves
  exact ⟨entry, List.mem_of_find?_eq_some first, parameters, serves.1, matched, dispatched⟩

theorem answers (router : Router) (capture : Capture) (world : World) (context : Context) (request : Request) :
    router.Answers capture world context request where
  found _ first := router.dispatch_of_find? capture world context first
  notAllowed none covered := by
    obtain ⟨methods, occurrences, resolved⟩ :=
      Routing.resolveFrom_of_find?_eq_none none Routing.FirstOccurrences.nil
    rw [List.nil_append] at occurrences
    obtain ⟨entry, member, covers⟩ := covered
    have listed : entry.method ∈ methods := by
      rw [occurrences.mem_iff, Routing.mem_offered]
      exact ⟨entry, member, by simp [Routing.Entry.serves, covers]⟩
    have some : methods ≠ [] := List.ne_nil_of_mem listed
    obtain ⟨value, written, reads⟩ := Http.exists_listing methods
    obtain ⟨response, returned⟩ : ∃ response, (router.run router.config.methodNotAllowedPipeline
        { capture, world } 0 context request).outcome = .returned response := returned_run _ _ rfl
    have dispatched : router.dispatch capture world context request =
        { (router.run router.config.methodNotAllowedPipeline { capture, world } 0 context request).dispatch with
          response := response.setHeader HeaderName.allow value } := by
      rw [dispatch, course, Routing.resolve, resolved, if_neg (by simpa using some)]
      simp only [dispatch_map _ returned, announce, written]
    refine ⟨methods, value, response, occurrences, occurrences.nodup, some, fun own => ?_, reads, returned,
      dispatched, ?_, fun method member => ?_⟩
    · obtain ⟨entry, member, serves⟩ := Routing.mem_offered.mp ((occurrences.mem_iff _).mp own)
      exact List.find?_eq_none.mp none entry member serves
    · rw [dispatched]
      exact Headers.values_set ..
    · exact dispatch_of_mem_offered capture world context request ((occurrences.mem_iff method).mp member)
  notFound uncovered := by
    have none : router.table.find? (·.serves request.method request.target.path) = none :=
      List.find?_eq_none.mpr fun entry member => by simp [Routing.Entry.serves, uncovered entry member]
    obtain ⟨methods, occurrences, resolved⟩ :=
      Routing.resolveFrom_of_find?_eq_none none Routing.FirstOccurrences.nil
    have empty : methods = [] := by
      refine List.eq_nil_iff_forall_not_mem.mpr fun method listed => ?_
      obtain ⟨entry, member, serves⟩ := Routing.mem_offered.mp ((occurrences.mem_iff method).mp listed)
      simp [Routing.Entry.serves, uncovered entry member] at serves
    rw [dispatch, course, Routing.resolve, resolved, empty]
    rfl

/-- The table of a router holds the enabled default routes and then those of the application, and its entries
decide about every request: the first one that has the method and covers the path gets it, and where there is
none a fallback answers. -/
theorem dispatch_resolves (config : Config) (routes : List Route) (capture : Capture) (world : World)
    (context : Context) (request : Request) :
    (∃ defaults, (make config routes).table = (defaults ++ routes).map (make config routes).entry ∧
      defaults.map Route.info = (DefaultRoute.all.filter config.options.enabled).map DefaultRoute.info) ∧
      (make config routes).Answers capture world context request := by
  refine ⟨⟨_, rfl, ?_⟩, answers ..⟩
  rw [List.map_map]
  rfl

end Router

end ServiceHost
