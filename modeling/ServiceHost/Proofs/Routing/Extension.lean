import Mathlib.Data.List.Forall2
import ServiceHost.Proofs.Routing.Resolution

/-!
Extension: what routes behind a table change. The table decides first, so that a route stays where it was found, and
the methods of more routes come behind those that were told. An entry behind one with its method and its pattern never
decides anything.
-/

namespace ServiceHost

open Http

namespace Routing

variable {α : Type} {method : Method} {path : String} {segments : List String} {allowed methods : List Method}
  {entry other earlier gone : Entry α} {entries others front back : List (Entry α)} {parameters : Parameters}
  {related : Entry α → Entry α → Prop}

/-- Two resolutions are alike: they give the request to related entries with the same parameters, or they tell the
same. -/
inductive Resolution.Alike (related : Entry α → Entry α → Prop) : Resolution α → Resolution α → Prop where
  | found {first second : Entry α} (parameters : Parameters) (same : related first second) :
      Alike related (.found first parameters) (.found second parameters)
  | notAllowed (methods : List Method) : Alike related (.notAllowed methods) (.notAllowed methods)
  | notFound : Alike related .notFound .notFound

theorem Resolution.Alike.exists_found {resolution : Resolution α}
    (alike : Alike related (.found entry parameters) resolution) :
    ∃ other, related entry other ∧ resolution = .found other parameters := by
  cases alike with
  | found _ same => exact ⟨_, same, rfl⟩

theorem Resolution.Alike.eq_notAllowed {resolution : Resolution α}
    (alike : Alike related (.notAllowed methods) resolution) : resolution = .notAllowed methods := by
  cases alike
  rfl

/-- What becomes of a resolution when more entries follow. -/
def Resolution.further (resolution : Resolution α) (method : Method) (path : List String)
    (entries : List (Entry α)) : Resolution α :=
  match resolution with
  | .found entry parameters => .found entry parameters
  | .notAllowed methods => resolveFrom methods method path entries
  | .notFound => resolveFrom [] method path entries

/-- The first entries decide, or the others go on with what they told. -/
theorem resolveFrom_append : resolveFrom allowed method segments (front ++ back) =
    (resolveFrom allowed method segments front).further method segments back := by
  induction front generalizing allowed with
  | nil => cases allowed <;> rfl
  | cons entry front inductionHypothesis =>
    simp only [List.cons_append, resolveFrom]
    cases entry.pattern.matchFrom Parameters.empty segments with
    | none => exact inductionHypothesis
    | some parameters =>
      simp only
      split
      · rfl
      · split <;> exact inductionHypothesis

theorem further_nil : (resolveFrom allowed method segments entries).further method segments [] =
    resolveFrom allowed method segments entries := by
  rw [← resolveFrom_append, List.append_nil]

theorem ne_nil_of_resolveFrom (told : resolveFrom allowed method segments entries = .notAllowed methods) :
    methods ≠ [] := by
  rintro rfl
  have ended : (Resolution.notAllowed [] : Resolution α).further method segments [] = .notAllowed [] := by
    rw [← told, further_nil]
  cases ended

/-- Entries that do not cover a path have no part in its resolution. -/
theorem resolveFrom_uncovered (uncovered : ∀ entry ∈ entries, entry.covers path = false) :
    resolveFrom allowed method (pathSegments path) entries = resolveFrom allowed method (pathSegments path) [] := by
  induction entries with
  | nil => rfl
  | cons entry entries inductionHypothesis =>
    obtain ⟨here, later⟩ := List.forall_mem_cons.mp uncovered
    have unmatched : entry.pattern.matchFrom Parameters.empty (pathSegments path) = none := by
      simpa [Entry.covers, Pattern.match?] using here
    rw [← inductionHypothesis later, resolveFrom, unmatched]

theorem resolve_append_uncovered (uncovered : ∀ entry ∈ back, entry.covers path = false) :
    resolve (front ++ back) method path = resolve front method path := by
  have idle (resolution : Resolution α) : resolution.further method (pathSegments path) back =
      resolution.further method (pathSegments path) [] := by
    cases resolution with
    | found => rfl
    | notAllowed => exact resolveFrom_uncovered uncovered
    | notFound => exact resolveFrom_uncovered uncovered
  rw [resolve, resolveFrom_append, idle, further_nil, resolve]

/-- Behind methods that were told, an entry gets the request, or more methods follow. -/
theorem resolveFrom_cases (some : allowed ≠ []) :
    (∃ entry ∈ entries, ∃ parameters, resolveFrom allowed method segments entries = .found entry parameters) ∨
      ∃ further, resolveFrom allowed method segments entries = .notAllowed (allowed ++ further) := by
  induction entries generalizing allowed with
  | nil => exact .inr ⟨[], by simpa [resolveFrom] using some⟩
  | cons entry entries inductionHypothesis =>
    have later {allowed : List Method} (some : allowed ≠ []) :
        (∃ other ∈ entry :: entries, ∃ parameters,
          resolveFrom allowed method segments entries = .found other parameters) ∨
          ∃ further, resolveFrom allowed method segments entries = .notAllowed (allowed ++ further) :=
      (inductionHypothesis some).imp_left fun ⟨other, member, found⟩ => ⟨other, .tail _ member, found⟩
    unfold resolveFrom
    cases entry.pattern.matchFrom Parameters.empty segments with
    | none => exact later some
    | some parameters =>
      simp only
      split
      · exact .inl ⟨entry, List.mem_cons_self, parameters, rfl⟩
      · split
        · exact later some
        · obtain found | ⟨further, told⟩ := later (List.append_ne_nil_of_left_ne_nil some [entry.method])
          · exact .inl found
          · exact .inr ⟨entry.method :: further, by rw [told, List.append_assoc, List.singleton_append]⟩

/-- Where a table tells methods, entries behind it get the request or add to the methods. -/
theorem resolve_append_of_told (told : resolve front method path = .notAllowed methods) :
    (∃ entry ∈ back, ∃ parameters, resolve (front ++ back) method path = .found entry parameters) ∨
      ∃ further, resolve (front ++ back) method path = .notAllowed (methods ++ further) := by
  rw [resolve] at told
  rw [resolve, resolveFrom_append, told]
  exact resolveFrom_cases (ne_nil_of_resolveFrom told)

example :
    resolveFrom [.get] ⟨"PUT", by decide⟩ ["a"] [⟨.get, [.rest "path"], 1⟩, ⟨.post, [.literal "a"], 2⟩] =
      .notAllowed [.get, .post] := by
  rfl

/-- What the entries of a table say of a resolution. -/
inductive Resolved (entries : List (Entry α)) (method : Method) (path : String) : Resolution α → Prop where
  | found {entry : Entry α} {parameters : Parameters}
      (first : entries.find? (·.serves method path) = some entry)
      (matched : entry.pattern.match? path = some parameters) : Resolved entries method path (.found entry parameters)
  | notAllowed {methods : List Method} (unserved : entries.find? (·.serves method path) = none)
      (occurrences : FirstOccurrences methods (offered entries path)) :
      Resolved entries method path (.notAllowed methods)
  | notFound (uncovered : ∀ entry ∈ entries, entry.covers path = false) : Resolved entries method path .notFound

theorem resolved (entries : List (Entry α)) (method : Method) (path : String) :
    Resolved entries method path (resolve entries method path) := by
  cases first : entries.find? (·.serves method path) with
  | some entry =>
    obtain ⟨parameters, matched, found⟩ := resolveFrom_of_find? first
    rw [resolve, found]
    exact .found first matched
  | none =>
    obtain ⟨methods, occurrences, told⟩ := resolveFrom_of_find?_eq_none first .nil
    rw [List.nil_append] at occurrences
    rw [resolve, told]
    split
    · rename_i empty
      obtain rfl := List.isEmpty_iff.mp empty
      refine .notFound fun entry member => ?_
      by_contra covers
      have serves : entry.serves entry.method path := by simpa [Entry.serves] using covers
      exact List.not_mem_nil ((occurrences.mem_iff entry.method).mpr (mem_offered.mpr ⟨entry, member, serves⟩))
    · exact .notAllowed first occurrences

/-- An entry that gets a request has its place in the table: it is the first one that serves the request. -/
theorem Resolved.exists_place (found : Resolved entries method path (.found entry parameters)) :
    ∃ place, entries.findIdx? (·.serves method path) = some place ∧ entries[place]? = some entry := by
  cases found with
  | found first =>
    obtain ⟨serves, place, inside, rfl, earlier⟩ := List.find?_eq_some_iff_getElem.mp first
    refine ⟨place, List.findIdx?_eq_some_iff_getElem.mpr ⟨inside, serves, fun index before => ?_⟩, by simp⟩
    simpa using earlier index before

/-- Where the methods of a path are told, an entry that covers it has another method than the request, and its method
is told. -/
theorem Resolved.told (told : Resolved entries method path (.notAllowed methods)) (member : entry ∈ entries)
    (covers : entry.covers path) : entry.method ∈ methods ∧ entry.method ≠ method := by
  cases told with
  | notAllowed unserved occurrences =>
    rw [occurrences.mem_iff, mem_offered]
    refine ⟨⟨entry, member, by simp [Entry.serves, covers]⟩, fun same => ?_⟩
    exact List.find?_eq_none.mp unserved entry member (by simp [Entry.serves, same, covers])

/-- An entry that does not match, or whose method is another one that was told, decides nothing. -/
theorem resolveFrom_cons_idle (idle : entry.covers path → entry.method ∈ allowed ∧ entry.method ≠ method) :
    resolveFrom allowed method (pathSegments path) (entry :: entries) =
      resolveFrom allowed method (pathSegments path) entries := by
  rw [resolveFrom]
  cases matched : entry.pattern.matchFrom Parameters.empty (pathSegments path) with
  | none => rfl
  | some parameters =>
    obtain ⟨known, other⟩ := idle (by simp [Entry.covers, Pattern.match?, matched])
    simp only [if_neg other, if_pos known]

/-- An entry behind one with its method and its pattern decides nothing. -/
theorem resolve_shadowed (method : Method) (path : String) (member : earlier ∈ front)
    (sameMethod : earlier.method = gone.method) (samePattern : earlier.pattern = gone.pattern) :
    resolve (front ++ gone :: back) method path = resolve (front ++ back) method path := by
  have covered : gone.covers path = earlier.covers path := by rw [Entry.covers, Entry.covers, samePattern]
  have first := resolved front method path
  rw [resolve, resolve, resolveFrom_append, resolveFrom_append]
  unfold resolve at first
  cases decided : resolveFrom [] method (pathSegments path) front with
  | found entry parameters => rfl
  | notAllowed methods =>
    refine resolveFrom_cons_idle fun covers => ?_
    rw [← sameMethod]
    exact (decided ▸ first).told member (covered ▸ covers)
  | notFound =>
    refine resolveFrom_cons_idle fun covers => ?_
    rw [decided] at first
    cases first with
    | notFound uncovered =>
      rw [covered, uncovered earlier member] at covers
      cases covers

/-- A relation of entries that have the same method and the same pattern. -/
def Homologous (related : Entry α → Entry α → Prop) : Prop :=
  ∀ first second, related first second → first.method = second.method ∧ first.pattern = second.pattern

/-- Tables with related entries resolve a request alike. -/
theorem resolveFrom_alike (homologous : Homologous related) (tables : List.Forall₂ related entries others) :
    (resolveFrom allowed method segments entries).Alike related (resolveFrom allowed method segments others) := by
  induction tables generalizing allowed with
  | nil =>
    cases allowed with
    | nil => exact .notFound
    | cons first more => exact .notAllowed _
  | @cons entry other _ _ same _ inductionHypothesis =>
    obtain ⟨sameMethod, samePattern⟩ := homologous entry other same
    simp only [resolveFrom, sameMethod, samePattern]
    cases other.pattern.matchFrom Parameters.empty segments with
    | none => exact inductionHypothesis
    | some parameters =>
      simp only
      split
      · exact .found parameters same
      · split <;> exact inductionHypothesis

/-- In tables with related entries a request has its entry at the same place. -/
theorem findIdx?_alike (homologous : Homologous related) (tables : List.Forall₂ related entries others) :
    entries.findIdx? (·.serves method path) = others.findIdx? (·.serves method path) := by
  induction tables with
  | nil => rfl
  | @cons entry other _ _ same _ inductionHypothesis =>
    obtain ⟨sameMethod, samePattern⟩ := homologous entry other same
    have serves : entry.serves method path = other.serves method path := by
      simp only [Entry.serves, Entry.covers, sameMethod, samePattern]
    rw [List.findIdx?_cons, List.findIdx?_cons, serves, inductionHypothesis]

theorem resolve_alike (homologous : Homologous related) (tables : List.Forall₂ related entries others)
    (method : Method) (path : String) :
    (resolve entries method path).Alike related (resolve others method path) :=
  resolveFrom_alike homologous tables

/-- An entry that gets a request in a table gets it in every longer one, at its place and with its parameters. -/
theorem resolve_append_of_found (homologous : Homologous related) (tables : List.Forall₂ related entries front)
    (found : resolve entries method path = .found entry parameters) :
    ∃ place other, entries.findIdx? (·.serves method path) = some place ∧ entries[place]? = some entry ∧
      (front ++ back).findIdx? (·.serves method path) = some place ∧ (front ++ back)[place]? = some other ∧
      related entry other ∧ resolve (front ++ back) method path = .found other parameters := by
  have alike := resolve_alike homologous tables method path
  rw [found] at alike
  obtain ⟨other, same, otherFound⟩ := alike.exists_found
  obtain ⟨place, index, stands⟩ := (found ▸ resolved entries method path).exists_place
  obtain ⟨otherPlace, otherIndex, otherStands⟩ := (otherFound ▸ resolved front method path).exists_place
  have samePlace : some place = some otherPlace := by rw [← index, ← otherIndex, findIdx?_alike homologous tables]
  obtain rfl := Option.some.inj samePlace
  refine ⟨place, other, index, stands, ?_, ?_, same, ?_⟩
  · rw [List.findIdx?_append, otherIndex, Option.some_or]
  · rw [List.getElem?_append_left (List.getElem?_eq_some_iff.mp otherStands).1, otherStands]
  · rw [resolve] at otherFound
    rw [resolve, resolveFrom_append, otherFound]
    rfl

end Routing

open Routing

/-- The entry of a route in the tables of all routers of a configuration. -/
def Config.entry (config : Config) (route : Route) : Entry Pipeline :=
  ⟨route.method, Pattern.ofString route.path, config.routePipeline route⟩

/-- Entries of two routers of a configuration stand for the same route: they are equal, but for the listing with which
the index route answers. -/
inductive Config.SameRoute (config : Config) : Entry Pipeline → Entry Pipeline → Prop where
  | same (entry : Entry Pipeline) : SameRoute config entry entry
  | index (first second : List RouteInfo) :
      SameRoute config (config.entry (config.defaultRoute first .index))
        (config.entry (config.defaultRoute second .index))

namespace Config

variable {config : Config}

theorem homologous_sameRoute : Homologous config.SameRoute := by
  intro _ _ same
  cases same with
  | same entry => exact ⟨rfl, rfl⟩
  | index first second => simp only [entry, defaultRoute, and_self]

/-- Only the index route depends on the listing. -/
theorem defaultRoute_eq {route : DefaultRoute} (other : route ≠ .index) (first second : List RouteInfo) :
    config.defaultRoute first route = config.defaultRoute second route := by
  have builtin : route.builtin config first = route.builtin config second := by
    cases route with
    | index => exact absurd rfl other
    | _ => rfl
  rw [defaultRoute, defaultRoute, builtin]

/-- Two routers of a configuration have the entries of the default routes in common. -/
theorem sameRoute_defaultRoute (first second : List RouteInfo) (route : DefaultRoute) :
    config.SameRoute (config.entry (config.defaultRoute first route))
      (config.entry (config.defaultRoute second route)) := by
  by_cases index : route = .index
  · rw [index]
    exact .index first second
  · rw [defaultRoute_eq index first second]
    exact .same _

end Config

namespace Router

variable {config : Config} {routes more before after : List Route} {method : Method} {path : String}

/-- What a router keeps of the resolution of a request when more routes are bound behind its own. -/
structure Extends (config : Config) (routes more : List Route) (method : Method) (path : String) : Prop where
  /-- An entry that gets the request gets it at its place in the longer table, with the same parameters. -/
  found : ∀ entry parameters, resolve (make config routes).table method path = .found entry parameters →
    ∃ place other, (make config routes).table.findIdx? (·.serves method path) = some place ∧
      (make config routes).table[place]? = some entry ∧
      (make config (routes ++ more)).table.findIdx? (·.serves method path) = some place ∧
      (make config (routes ++ more)).table[place]? = some other ∧ config.SameRoute entry other ∧
      resolve (make config (routes ++ more)).table method path = .found other parameters
  /-- Where methods were told, one of the routes behind gets the request, or more methods are told behind them. -/
  notAllowed : ∀ methods, resolve (make config routes).table method path = .notAllowed methods →
    (∃ route ∈ more, ∃ parameters, resolve (make config (routes ++ more)).table method path =
      .found ((make config (routes ++ more)).entry route) parameters) ∨
      ∃ further, resolve (make config (routes ++ more)).table method path = .notAllowed (methods ++ further)
  /-- Routes that do not match the path have no part in its resolution. -/
  uncovered : (∀ route ∈ more, (Pattern.ofString route.path).match? path = none) →
    (resolve (make config routes).table method path).Alike config.SameRoute
      (resolve (make config (routes ++ more)).table method path)

/-- The table of a configuration and some routes, for whatever listing the index route answers with. -/
def tableListing (config : Config) (listing : List RouteInfo) (routes : List Route) : List (Entry Pipeline) :=
  (config.defaultRoutes.map (config.defaultRoute listing) ++ routes).map config.entry

theorem entry_make (config : Config) (routes : List Route) : (make config routes).entry = config.entry := by
  funext route
  rw [entry, make, Config.entry]

theorem table_make (config : Config) (routes : List Route) : (make config routes).table =
    tableListing config (config.defaultRoutes.map DefaultRoute.info ++ routes.map Route.info) routes := by
  rw [table, entry_make, make, Config.allRoutes, Config.map_info_assemble, Config.assemble, tableListing]

theorem tableListing_append (config : Config) (listing : List RouteInfo) (routes more : List Route) :
    tableListing config listing (routes ++ more) =
      tableListing config listing routes ++ more.map config.entry := by
  simp only [tableListing, List.map_append, List.append_assoc]

/-- Tables with the same routes and different listings have entries of the same routes. -/
theorem forall₂_tableListing (config : Config) (first second : List RouteInfo) (routes : List Route) :
    List.Forall₂ config.SameRoute (tableListing config first routes) (tableListing config second routes) := by
  rw [tableListing, tableListing, List.map_append, List.map_append, List.map_map, List.map_map]
  refine List.rel_append ?_ (List.forall₂_same.mpr fun entry _ => .same entry)
  rw [List.forall₂_map_left_iff, List.forall₂_map_right_iff]
  exact List.forall₂_same.mpr fun route _ => Config.sameRoute_defaultRoute first second route

/-- The routes of a router have entries of their methods and patterns in its table. -/
theorem exists_entry_of_mem_allRoutes {route : Route} (member : route ∈ config.allRoutes routes)
    (listing : List RouteInfo) :
    ∃ entry ∈ tableListing config listing routes, entry.method = route.method ∧
      entry.pattern = Pattern.ofString route.path := by
  obtain default | bound := List.mem_append.mp member
  · obtain ⟨kind, enabled, rfl⟩ := List.mem_map.mp default
    exact ⟨_, List.mem_map_of_mem (List.mem_append_left _ (List.mem_map_of_mem enabled)), rfl, rfl⟩
  · exact ⟨_, List.mem_map_of_mem (List.mem_append_right _ bound), rfl, rfl⟩

theorem extends_make (config : Config) (routes more : List Route) (method : Method) (path : String) :
    Extends config routes more method path := by
  have tables := forall₂_tableListing config (config.defaultRoutes.map DefaultRoute.info ++ routes.map Route.info)
    (config.defaultRoutes.map DefaultRoute.info ++ (routes ++ more).map Route.info) routes
  rw [← table_make] at tables
  have longer := (table_make config (routes ++ more)).trans (tableListing_append config _ routes more)
  have alike := resolve_alike Config.homologous_sameRoute tables method path
  constructor
  · intro entry parameters found
    rw [longer]
    exact resolve_append_of_found Config.homologous_sameRoute tables found
  · intro methods told
    rw [told] at alike
    rw [longer]
    obtain ⟨entry, member, parameters, found⟩ | further := resolve_append_of_told alike.eq_notAllowed
    · obtain ⟨route, inMore, rfl⟩ := List.mem_map.mp member
      rw [entry_make]
      exact .inl ⟨route, inMore, parameters, found⟩
    · exact .inr further
  · intro unmatched
    have uncovered : ∀ entry ∈ more.map config.entry, entry.covers path = false := by
      intro entry member
      obtain ⟨route, inMore, rfl⟩ := List.mem_map.mp member
      simp [Entry.covers, Config.entry, unmatched route inMore]
    rw [longer, resolve_append_uncovered uncovered]
    exact alike

/-- A route behind one with its method and its pattern decides nothing in a router. -/
theorem alike_without (config : Config) {before after : List Route} {earlier gone : Route}
    (member : earlier ∈ config.allRoutes before) (sameMethod : earlier.method = gone.method)
    (samePattern : Pattern.ofString earlier.path = Pattern.ofString gone.path) (method : Method) (path : String) :
    (resolve (make config (before ++ gone :: after)).table method path).Alike config.SameRoute
      (resolve (make config (before ++ after)).table method path) := by
  rw [table_make, tableListing_append, List.map_cons]
  obtain ⟨entry, inTable, method_eq, pattern_eq⟩ := exists_entry_of_mem_allRoutes member _
  rw [resolve_shadowed method path inTable (method_eq.trans sameMethod) (pattern_eq.trans samePattern),
    ← tableListing_append, table_make]
  exact resolve_alike Config.homologous_sameRoute (forall₂_tableListing config _ _ _) method path

/-- Binding more routes behind those of a router leaves its resolutions as they are, but where methods were told or
nothing was found. An entry whose method and pattern an earlier one has can be left out, from the table as it is or
from the routes that are bound. -/
theorem extends_and_ignores_shadowed (config : Config) (method : Method) (path : String) :
    (∀ routes more, Extends config routes more method path) ∧
      (∀ routes front gone back, (make config routes).table = front ++ gone :: back →
        (∃ earlier ∈ front, earlier.method = gone.method ∧ earlier.pattern = gone.pattern) →
          resolve (front ++ back) method path = resolve (make config routes).table method path) ∧
      ∀ before gone after, (∃ earlier ∈ config.allRoutes before, earlier.method = gone.method ∧
        Pattern.ofString earlier.path = Pattern.ofString gone.path) →
          (resolve (make config (before ++ gone :: after)).table method path).Alike config.SameRoute
            (resolve (make config (before ++ after)).table method path) := by
  refine ⟨fun routes more => extends_make config routes more method path, ?_, ?_⟩
  · rintro routes front gone back table_eq ⟨earlier, member, sameMethod, samePattern⟩
    rw [table_eq, resolve_shadowed method path member sameMethod samePattern]
  · rintro before gone after ⟨earlier, member, sameMethod, samePattern⟩
    exact alike_without config member sameMethod samePattern method path

end Router

end ServiceHost
