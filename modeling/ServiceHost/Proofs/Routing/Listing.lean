import ServiceHost.Proofs.Config.Settings
import ServiceHost.Proofs.Json.Reading
import ServiceHost.Proofs.Pipeline.Cut
import ServiceHost.Proofs.Routing.Extension
import ServiceHost.Proofs.Routing.Solution
import ServiceHost.Proofs.Text.Encoding

/-!
Listing: what a router tells of its routes, and whether it keeps it. The index route tells what the router lists, the
list and the table stand in the same order, and a request that is made from an item of the list gets to a route that
stands no later than this item.
-/

namespace ServiceHost

open Http

/-! ### Bodies -/

namespace Json

/-- The member of a name in an object. -/
def member? (value : Json) (name : String) : Option Json :=
  match value with
  | .object members => members.lookup name
  | _ => none

def items? : Json → Option (List Json)
  | .array items => some items
  | _ => none

def text? : Json → Option String
  | .text content => some content
  | _ => none

end Json

namespace RouteInfo

/-- The listing entry that a value stands for. -/
def ofJson? (value : Json) : Option RouteInfo := do
  let method ← (← value.member? "method").text?
  let path ← (← value.member? "path").text?
  let description ← (← value.member? "description").text?
  return ⟨← Method.ofString? method, path, description⟩

/-- The routes that a body tells of. -/
def read? (body : Bytes) : Option (List RouteInfo) := do
  let document ← Json.read? (← body.toString?)
  (← (← document.member? "routes").items?).mapM ofJson?

theorem ofJson?_json (info : RouteInfo) : ofJson? info.json = some info := by
  have method : Method.ofString? info.method.name = some info.method := Method.ofString?_eq_some_iff.mpr rfl
  simp [ofJson?, json, Json.member?, Json.text?, List.lookup_cons, method]

/-- The body of a listing tells of its routes. -/
theorem read?_listing (routes : List RouteInfo) :
    read? (Bytes.ofString (Json.object [("routes", .array (routes.map json))]).compact) = some routes := by
  have items : (routes.map json).mapM ofJson? = some routes := by
    induction routes with
    | nil => rfl
    | cons info routes inductionHypothesis => simp [ofJson?_json, inductionHypothesis]
  simp [read?, Bytes.toString?_ofString, Json.read?_compact, Json.member?, Json.items?, items]

end RouteInfo

/-! ### Paths -/

namespace Routing

/-- What may stand in a path where a piece stands in a pattern: for a capture any piece that is not empty, and for any
other piece only this piece. -/
inductive Substitutes : List Char → List Char → Prop
  | literal {piece : List Char} (unbraced : ∀ name, piece ≠ '\x7b' :: name ++ ['\x7d']) : Substitutes piece piece
  | capture {name value : List Char} (nonempty : value ≠ []) (slashless : '/' ∉ value) :
      Substitutes ('\x7b' :: name ++ ['\x7d']) value

/-- A path is a pattern with values in the places of its captures. -/
def Instantiates (pattern path : String) : Prop :=
  ∃ pieces, List.Forall₂ Substitutes (pattern.toList.splitOn '/') pieces ∧ path.toList = ['/'].intercalate pieces

variable {α : Type} {piece value : List Char} {pieces values : List (List Char)} {pattern path : String}
  {method : Method} {entries : List (Entry α)} {entry : Entry α} {place : Nat}

theorem Substitutes.nonempty_iff (substitutes : Substitutes piece value) : piece ≠ [] ↔ value ≠ [] := by
  cases substitutes with
  | literal => exact Iff.rfl
  | capture nonempty => exact iff_of_true (List.cons_ne_nil _ _) nonempty

theorem slashless_of_substitutes (substitutes : List.Forall₂ Substitutes pieces values)
    (slashless : ∀ piece ∈ pieces, '/' ∉ piece) : ∀ value ∈ values, '/' ∉ value := by
  induction substitutes with
  | nil => exact List.forall_mem_nil _
  | cons here _ inductionHypothesis =>
    obtain ⟨first, others⟩ := List.forall_mem_cons.mp slashless
    refine List.forall_mem_cons.mpr ⟨?_, inductionHypothesis others⟩
    cases here with
    | literal => exact first
    | capture _ slashless => exact slashless

/-- A piece without braces around it denotes a literal. -/
theorem Segment.ofString_of_unbraced (unbraced : ∀ name, piece ≠ '\x7b' :: name ++ ['\x7d']) :
    Segment.ofString (String.ofList piece) = .literal (String.ofList piece) := by
  have none : braced? piece = none := by
    refine Option.eq_none_iff_forall_ne_some.mpr fun name braced => unbraced name (braced?_eq_some_iff.mp braced)
  rw [ofString, String.toList_ofList, none]

/-- A piece in braces denotes a capture of one segment or of the rest. -/
theorem Segment.ofString_of_braced (inside : List Char) :
    ∃ name, Segment.ofString (String.ofList ('\x7b' :: inside ++ ['\x7d'])) = .capture name ∨
      Segment.ofString (String.ofList ('\x7b' :: inside ++ ['\x7d'])) = .rest name := by
  rw [ofString, String.toList_ofList, braced?_eq_some_iff.mpr rfl]
  split
  · contradiction
  · exact ⟨_, .inr rfl⟩
  · exact ⟨_, .inl rfl⟩

/-- Segments match what may stand in their places, whatever stands behind a capture of the rest. -/
theorem exists_matchFrom_of_substitutes (substitutes : List.Forall₂ Substitutes pieces values)
    (parameters : Parameters) :
    ∃ found, Pattern.matchFrom parameters (pieces.map fun piece => Segment.ofString (String.ofList piece))
      (values.map String.ofList) = some found := by
  induction substitutes generalizing parameters with
  | nil => exact ⟨parameters, rfl⟩
  | @cons piece value pieces values here _ inductionHypothesis =>
    rw [List.map_cons, List.map_cons]
    cases here with
    | literal unbraced =>
      obtain ⟨found, matched⟩ := inductionHypothesis parameters
      rw [Segment.ofString_of_unbraced unbraced]
      exact ⟨found, (if_pos rfl).trans matched⟩
    | @capture inside =>
      obtain ⟨name, one | rest⟩ := Segment.ofString_of_braced inside
      · obtain ⟨found, matched⟩ := inductionHypothesis (parameters.set name (String.ofList value))
        rw [one]
        exact ⟨found, matched⟩
      · rw [rest]
        exact ⟨_, rfl⟩

/-- A pattern matches every path that it becomes with values in the places of its captures. -/
theorem exists_match_of_instantiates (instantiates : Instantiates pattern path) :
    ∃ parameters, (Pattern.ofString pattern).match? path = some parameters := by
  obtain ⟨values, substitutes, path_eq⟩ := instantiates
  have slashless : ∀ value ∈ values, '/' ∉ value :=
    slashless_of_substitutes substitutes fun _ member =>
      Text.not_mem_of_mem_pieces (Text.pieces_eq_splitOn '/' pattern.toList ▸ member)
  have some : values ≠ [] := by
    rintro rfl
    exact List.splitOn_ne_nil _ _ (List.forall₂_nil_right_iff.mp substitutes)
  have cut : path.toList.splitOn '/' = values := by rw [path_eq, List.splitOn_intercalate '/' slashless some]
  have kept := List.rel_filter (p := fun piece => decide (piece ≠ [])) (q := fun piece => decide (piece ≠ []))
    (fun _ _ here => by simpa using here.nonempty_iff) substitutes
  obtain ⟨found, matched⟩ := exists_matchFrom_of_substitutes kept Parameters.empty
  refine ⟨found, ?_⟩
  rw [Pattern.match?, Pattern.ofString, pathSegments_eq, pathSegments_eq, segments, segments, cut, List.map_map]
  exact matched

/-- An entry that serves a request has it, or an earlier one has. -/
theorem exists_found_of_serves (stands : entries[place]? = some entry) (serves : entry.serves method path) :
    ∃ found other parameters, found ≤ place ∧ entries[found]? = some other ∧ other.method = method ∧
      other.pattern.match? path = some parameters ∧ resolve entries method path = .found other parameters := by
  have some : (entries.find? (·.serves method path)).isSome :=
    List.find?_isSome.mpr ⟨entry, List.mem_of_getElem? stands, serves⟩
  obtain ⟨other, first⟩ := Option.isSome_iff_exists.mp some
  obtain ⟨parameters, matched, resolution⟩ := resolveFrom_of_find? first
  have decided : resolve entries method path = .found other parameters := resolution
  obtain ⟨found, index, here⟩ := (decided ▸ resolved entries method path).exists_place
  obtain ⟨_, _, earlier⟩ := List.findIdx?_eq_some_iff_getElem.mp index
  refine ⟨found, other, parameters, ?_, here, ?_, matched, decided⟩
  · by_contra later
    obtain ⟨inside, same⟩ := List.getElem?_eq_some_iff.mp stands
    exact earlier place (Nat.lt_of_not_le later) (same ▸ serves)
  · have own := List.find?_some first
    simp only [Entry.serves, Bool.and_eq_true, decide_eq_true_eq] at own
    exact own.1

end Routing

/-! ### Answers -/

/-- A response has a status and the text of a payload. -/
structure Http.Response.Shows (response : Response) (status : Status) (payload : Envelope.Payload) : Prop where
  status : response.status = status
  body : response.body = Bytes.ofString payload.content

theorem Http.Response.Shows.tagResponse {response : Response} {status : Status} {payload : Envelope.Payload}
    (shows : response.Shows status payload) (traceHeader : HeaderName) (traceId : String) :
    (tagResponse traceHeader traceId response).Shows status payload := by
  unfold ServiceHost.tagResponse
  split
  · exact shows
  · exact ⟨shows.status, shows.body⟩

/-- Where no stage of the caller lies around a handler that answers every call, its answer is returned. -/
theorem Station.returned_answer (args : RouteArgs) (status : Status) (payload : Envelope.Payload) (station : Station)
    (builtin : ∀ stage, .caller stage ∉ station.stages) :
    ∃ response, (station.course args (Handler.answer status payload)).outcome = .returned response ∧
      response.Shows status payload := by
  induction station using inward_induction args with
  | step station inductionHypothesis =>
  have behind (next : Station) (inward : Inward args station next) :
      ∃ response, (next.course args (Handler.answer status payload)).outcome = .returned response ∧
        response.Shows status payload :=
    inductionHypothesis next inward fun stage inside => builtin stage (inward.suffix_stages.mem inside)
  cases stages : station.stages with
  | nil =>
    rw [course_handler stages]
    exact ⟨_, rfl, rfl, rfl⟩
  | cons stage rest =>
    cases stage with
    | caller stage => exact absurd (stages ▸ List.mem_cons_self) (builtin stage)
    | logging =>
      obtain ⟨response, returned, shows⟩ := behind _ (.logging stages)
      obtain ⟨dump, course_eq⟩ := course_logging (Handler.answer status payload) stages
      rw [Course.andThen, returned] at course_eq
      exact ⟨_, congrArg Course.outcome course_eq, shows.tagResponse ..⟩
    | timeout limit =>
      obtain ⟨response, returned, shows⟩ := behind _ (.timeout stages)
      have uncut : ((station.limited limit rest).course args (Handler.answer status payload)).outcome ≠ .cut := by
        simp [returned]
      rw [course_timeout stages, Scene.expire_of_uncut uncut, ite_self]
      exact ⟨response, returned, shows⟩
    | instrument =>
      rw [course_instrument stages]
      exact behind _ (.instrument stages)

/-! ### Routes -/

namespace Config

variable {config : Config}

/-- The index route stands first. -/
theorem exists_defaultRoutes (enabled : config.options.enabled .index) :
    ∃ others, config.defaultRoutes = .index :: others :=
  ⟨_, List.filter_cons_of_pos enabled⟩

theorem pattern_entry (listing : List RouteInfo) (route : DefaultRoute) :
    (config.entry (config.defaultRoute listing route)).pattern = Routing.Pattern.ofString route.path := by
  rw [entry, defaultRoute]

/-- Which default routes are enabled does not depend on the order or the number of the settings that enable them. -/
theorem enabled_of_build {builder : Builder} {settings : List Setting}
    (built : (builder.applyAll settings).build = .ok config) (route : DefaultRoute) :
    config.options.enabled route ↔
      builder.enabled route ∨ ∃ routes, .enable routes ∈ settings ∧ route ∈ routes := by
  rw [Builder.options_of_build built, Builder.applyAll_eq_adopt]
  simp only [Builder.adopt, Setting.digest, DefaultRoute.insertAll, Bool.false_or, Bool.or_eq_true,
    List.contains_iff_mem, List.mem_flatMap]
  refine or_congr_right ⟨?_, ?_⟩
  · rintro ⟨setting, member, enables⟩
    cases setting with
    | enable routes => exact ⟨routes, member, enables⟩
    | _ => cases enables
  · rintro ⟨routes, member, inside⟩
    exact ⟨.enable routes, member, inside⟩

end Config

open Routing

namespace Router

variable {config : Config}

/-- The index route of a router tells what the router lists. -/
structure IndexTells (router : Router) : Prop where
  /-- Its handler stands first in the table, and its answers tell of all routes. -/
  handler : ∃ entry rest, router.table = entry :: rest ∧ entry.method = Method.get ∧ entry.pattern = [] ∧
    ∀ call, ∃ response, (entry.target.handler call).result = .ok response ∧ response.status = Status.ok ∧
      RouteInfo.read? response.body = some router.listing
  /-- So does what goes out, where no stage of the caller lies around it. -/
  dispatched : (∀ stage, .caller stage ∉ router.config.options.stages) →
    ∀ capture world context (request : Request), request.method = Method.get →
      segments request.target.path = [] →
        (router.dispatch capture world context request).response.status = Status.ok ∧
          RouteInfo.read? (router.dispatch capture world context request).response.body = some router.listing

/-- A request gets to a route at a place of the table or before it, and so to no fallback. -/
def RoutesBy (router : Router) (place : Nat) (request : Request) : Prop :=
  ∃ found entry parameters, found ≤ place ∧ router.table[found]? = some entry ∧ entry.method = request.method ∧
    entry.pattern.match? request.target.path = some parameters ∧
    resolve router.table request.method request.target.path = .found entry parameters ∧
    ∀ capture world context, router.dispatch capture world context request =
      (router.run entry.target { capture, world } 0 (context.withParameters parameters) request).dispatch

/-- What a router tells of its routes is so, and it keeps what it tells. -/
structure ListsFaithfully (config : Config) (routes : List Route) : Prop where
  /-- The enabled default routes are listed in routing order, and then those of the application in theirs. -/
  listed : (make config routes).listing =
    (DefaultRoute.all.filter config.options.enabled).map DefaultRoute.info ++ routes.map Route.info
  /-- No default route is listed twice. -/
  once : ((DefaultRoute.all.filter config.options.enabled).map DefaultRoute.info).Nodup
  /-- Which of them are enabled does not depend on the order or the number of the settings that enable them. -/
  enabled : ∀ builder settings, (Builder.applyAll builder settings).build = .ok config → ∀ route,
    config.options.enabled route ↔ builder.enabled route ∨ ∃ routes, .enable routes ∈ settings ∧ route ∈ routes
  /-- The index route tells the same, if it has no other handler. -/
  told : config.options.enabled .index → config.options.overrides .index = none → (make config routes).IndexTells
  /-- The items of the list and the entries of the table have the same places. -/
  aligned : List.Forall₂ (fun info entry => entry.method = info.method ∧ entry.pattern = Pattern.ofString info.path)
    (make config routes).listing (make config routes).table
  /-- A request that is made from an item gets to a route that stands no later than this item, whatever values stand in
  its path. -/
  reached : ∀ (place : Nat) info, (make config routes).listing[place]? = some info → ∀ request : Request,
    request.method = info.method → Instantiates info.path request.target.path →
      (make config routes).RoutesBy place request

theorem listing_make (config : Config) (routes : List Route) : (make config routes).listing =
    (DefaultRoute.all.filter config.options.enabled).map DefaultRoute.info ++ routes.map Route.info :=
  config.map_info_assemble _ routes

/-- Where it is enabled, the index route stands first in the table, and its built-in handler knows the listing. -/
theorem exists_table (enabled : config.options.enabled .index) (routes : List Route) :
    ∃ rest, (make config routes).table =
      config.entry (config.defaultRoute (make config routes).listing .index) :: rest := by
  obtain ⟨others, first⟩ := config.exists_defaultRoutes enabled
  have known : config.defaultRoutes.map DefaultRoute.info ++ routes.map Route.info = (make config routes).listing :=
    (listing_make config routes).symm
  rw [table_make, known, tableListing, first]
  exact ⟨_, rfl⟩

/-- No stages of the caller lie around the handler of a default route but those that all routes share. -/
theorem not_mem_stages (plain : ∀ stage, .caller stage ∉ config.options.stages) (listing : List RouteInfo)
    (route : DefaultRoute) (stage : CallerStage) :
    .caller stage ∉ (config.entry (config.defaultRoute listing route)).target.stages := by
  simp only [Config.entry, Config.defaultRoute, Config.routePipeline, Assembly.build, Assembly.stages, List.append_nil,
    List.mem_append, not_or]
  refine ⟨⟨fun inside => ?_, fun inside => ?_⟩, plain stage⟩ <;> split at inside <;> simp at inside

/-- Without stages of the caller the pipeline of a handler that answers every call returns its answer. -/
theorem returned_answer (router : Router) {pipeline : Pipeline} {status : Status} {payload : Envelope.Payload}
    (plain : ∀ stage, .caller stage ∉ pipeline.stages) (handler : pipeline.handler = Handler.answer status payload)
    (scene : Scene) (now : Nat) (context : Context) (request : Request) :
    ∃ response, (router.run pipeline scene now context request).outcome = .returned response ∧
      response.Shows status payload := by
  obtain ⟨response, returned, shows⟩ :=
    Station.returned_answer pipeline.args status payload ⟨pipeline.stages, scene, now, context, request⟩ plain
  rw [← handler] at returned
  exact ⟨response, run_of_returned returned ▸ returned, shows⟩

theorem indexTells (routes : List Route) (enabled : config.options.enabled .index)
    (builtin : config.options.overrides .index = none) : (make config routes).IndexTells := by
  obtain ⟨rest, table⟩ := exists_table enabled routes
  have pattern : (config.entry (config.defaultRoute (make config routes).listing .index)).pattern = [] := by
    rw [Config.pattern_entry]
    decide
  have handler : (config.entry (config.defaultRoute (make config routes).listing .index)).target.handler =
      Handler.listing (make config routes).listing := by
    show (config.options.overrides .index).getD _ = _
    rw [builtin]
    rfl
  have read := RouteInfo.read?_listing (make config routes).listing
  constructor
  · refine ⟨_, rest, table, rfl, pattern, fun call => ?_⟩
    rw [handler]
    exact ⟨_, rfl, rfl, read⟩
  · intro (plain : ∀ stage, .caller stage ∉ config.options.stages) capture world context request method root
    have resolution : resolve (make config routes).table request.method request.target.path =
        .found (config.entry (config.defaultRoute (make config routes).listing .index)) Parameters.empty := by
      rw [resolve, table, resolveFrom, pathSegments_eq, root, pattern, Pattern.matchFrom]
      exact if_pos method.symm
    have bare := not_mem_stages plain (make config routes).listing .index
    obtain ⟨response, returned, shows⟩ := (make config routes).returned_answer bare handler { capture, world } 0
      (context.withParameters Parameters.empty) request
    rw [dispatch, course, resolution]
    simp only [Course.dispatch, returned]
    exact ⟨shows.status, shows.body ▸ read⟩

/-- A request that is made from a route gets to it, or to one before it. -/
theorem routesBy_of_instantiates {router : Router} {route : Route} {place : Nat} {request : Request}
    (bound : router.routes[place]? = some route) (method : request.method = route.method)
    (instantiates : Instantiates route.path request.target.path) : router.RoutesBy place request := by
  have stands : router.table[place]? = some (router.entry route) := by
    rw [table, List.getElem?_map, bound, Option.map_some]
  obtain ⟨parameters, matched⟩ := exists_match_of_instantiates instantiates
  have serves : (router.entry route).serves request.method request.target.path := by
    simp [Entry.serves, Entry.covers, entry, matched, method]
  obtain ⟨found, other, captured, early, here, same, taken, decided⟩ := exists_found_of_serves stands serves
  refine ⟨found, other, captured, early, here, same, taken, decided, fun capture world context => ?_⟩
  rw [dispatch, course, decided]

theorem lists_faithfully (config : Config) (routes : List Route) : ListsFaithfully config routes where
  listed := listing_make config routes
  once := by
    have every : (DefaultRoute.all.map DefaultRoute.info).Nodup := by decide
    exact every.sublist (List.filter_sublist.map _)
  enabled builder settings built route := Config.enabled_of_build built route
  told := indexTells routes
  aligned := by
    rw [listing, table, List.forall₂_map_left_iff, List.forall₂_map_right_iff]
    exact List.forall₂_same.mpr fun route _ => ⟨rfl, rfl⟩
  reached place info listed request method instantiates := by
    rw [listing, List.getElem?_map, Option.map_eq_some_iff] at listed
    obtain ⟨route, bound, rfl⟩ := listed
    exact routesBy_of_instantiates bound method instantiates

example :
    let options := Builder.applyAll {} [.enable [.ping, .index], .disableLogger, .enable [.ping]]
    let order : Route := ⟨Method.post, "/orders/\x7bid\x7d", "", Handler.parameters, [], none, false⟩
    (make ⟨options, ⟨[], 8017⟩, HeaderName.requestId⟩ [order]).listing.map RouteInfo.path =
      ["/", "/ping", "/orders/\x7bid\x7d"] := by
  rfl

end Router

end ServiceHost
