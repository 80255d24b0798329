import Mathlib.Algebra.GroupWithZero.Nat
import Mathlib.Data.List.Basic
import ServiceHost.Metrics.Passes

/-!
Series: what the marks of measured passes do to the registry. The gauge is moved by every mark, and an answered
pass is counted once and timed once under the same endpoint, so that the two tables of the registry always agree.
-/

namespace ServiceHost

open Http

namespace Metrics

section Counts

variable {Key Item : Type} [DecidableEq Key] {key other : Key}

/-- A key that was bumped was there before or is new. -/
theorem mem_keys_bump {counts : List (Key × Nat)} (present : other ∈ (bump key counts).map Prod.fst) :
    other = key ∨ other ∈ counts.map Prod.fst := by
  induction counts with
  | nil => exact .inl (List.mem_singleton.mp present)
  | cons entry rest inductionHypothesis =>
    unfold bump at present
    split at present
    · exact .inr present
    · rcases List.mem_cons.mp present with rfl | behind
      · exact .inr List.mem_cons_self
      · exact (inductionHypothesis behind).imp_right (List.mem_cons_of_mem _)

/-- No key is counted twice. -/
theorem nodup_keys_bump {counts : List (Key × Nat)} (nodup : (counts.map Prod.fst).Nodup) :
    ((bump key counts).map Prod.fst).Nodup := by
  induction counts with
  | nil => simp [bump]
  | cons entry rest inductionHypothesis =>
    obtain ⟨fresh, nodupRest⟩ := List.nodup_cons.mp nodup
    unfold bump
    split
    · exact nodup
    · rename_i differs
      refine List.nodup_cons.mpr ⟨fun present => ?_, inductionHypothesis nodupRest⟩
      exact (mem_keys_bump present).elim differs fresh

/-- The sum over some keys grows by one if the bumped key is one of them. -/
theorem sum_filter_bump (key : Key) (among : Key → Bool) (counts : List (Key × Nat)) :
    (((bump key counts).filter fun entry => among entry.1).map Prod.snd).sum =
      ((counts.filter fun entry => among entry.1).map Prod.snd).sum + (among key).toNat := by
  induction counts with
  | nil => cases inside : among key <;> simp [bump, inside]
  | cons entry rest inductionHypothesis =>
    unfold bump
    split
    · rename_i same
      subst same
      cases inside : among entry.1 <;> simp [inside]
      omega
    · simp only [List.filter_cons]
      cases among entry.1 with
      | true => simp only [if_true, List.map_cons, List.sum_cons, inductionHypothesis, Nat.add_assoc]
      | false => simpa using inductionHypothesis

/-- How many items are listed by key. -/
def lengths (lists : List (Key × List Item)) : List (Key × Nat) :=
  lists.map fun entry => (entry.1, entry.2.length)

/-- To list an item is to count it. -/
theorem lengths_collect (item : Item) (lists : List (Key × List Item)) :
    lengths (collect key item lists) = bump key (lengths lists) := by
  induction lists with
  | nil => rfl
  | cons entry rest inductionHypothesis =>
    unfold collect
    split
    · rename_i same
      simp [lengths, bump, same]
    · rename_i differs
      simp only [lengths, List.map_cons] at inductionHypothesis ⊢
      rw [inductionHypothesis, bump, if_neg differs]

omit [DecidableEq Key] in
theorem lookup_lengths [BEq Key] (lists : List (Key × List Item)) :
    ((lengths lists).lookup key).getD 0 = ((lists.lookup key).getD []).length := by
  induction lists with
  | nil => rfl
  | cons entry rest inductionHypothesis =>
    obtain ⟨other, items⟩ := entry
    simp only [lengths, List.map_cons, List.lookup_cons] at inductionHypothesis ⊢
    cases key == other with
    | true => rfl
    | false => exact inductionHypothesis

end Counts

/-- What the registry is told of a measured pass: that it begins, or that it ends, with what it answered. -/
inductive Mark where
  | begins
  | ends (endpoint : Endpoint) (answered : Option (Status × Duration))

namespace Mark

def isBegin : Mark → Bool
  | .begins => true
  | .ends _ _ => false

/-- Does a pass end that answered? -/
def isAnswer : Mark → Bool
  | .ends _ (some _) => true
  | _ => false

/-- Does a pass end that answered at an endpoint with a status? -/
def isAnswerOf (endpoint : Endpoint) (status : Status) : Mark → Bool
  | .ends other (some (answered, _)) => decide (other = endpoint ∧ answered = status)
  | _ => false

end Mark

end Metrics

open Metrics

/-- The mark that an event is for the registry. -/
def Event.mark? (event : Event) : Option Mark :=
  match event.what with
  | .began => some .begins
  | .ended endpoint answered => some (.ends endpoint answered)
  | _ => none

/-- The marks among some events. -/
def marks (events : List Event) : List Mark := events.filterMap Event.mark?

@[simp] theorem marks_append (events others : List Event) : marks (events ++ others) = marks events ++ marks others :=
  List.filterMap_append

theorem marks_cons (event : Event) (events : List Event) : marks (event :: events) = marks [event] ++ marks events :=
  marks_append [event] events

/-- A status is its code. -/
theorem Http.status_eq {one other : Status} (codes : one.code = other.code) : one = other := by
  cases one
  cases other
  cases codes
  rfl

namespace Metrics.Registry

variable {registry : Registry} {endpoint : Endpoint} {status : Status}

/-- The registry after a mark. -/
def take (registry : Registry) : Mark → Registry
  | .begins => registry.moveGauge 1
  | .ends endpoint (some (status, took)) => (registry.observe endpoint status took).moveGauge (-1)
  | .ends _ none => registry.moveGauge (-1)

/-- Of all that happens the registry is told nothing but the marks. -/
theorem absorbAll_eq (registry : Registry) (events : List Event) :
    registry.absorbAll events = (marks events).foldl take registry := by
  rw [absorbAll, marks, List.foldl_filterMap]
  congr 1
  funext registry event
  obtain ⟨time, what⟩ := event
  cases what with
  | ended endpoint answered => cases answered <;> rfl
  | note | record | began => rfl

/-- The gauge goes up with every pass that begins and down with every one that ends. -/
theorem gauge_foldl (registry : Registry) (seen : List Mark) :
    (seen.foldl take registry).inFlight.getD 0 =
      registry.inFlight.getD 0 + seen.countP Mark.isBegin - seen.countP (!·.isBegin) := by
  induction seen generalizing registry with
  | nil => simp
  | cons mark seen inductionHypothesis =>
    have first : (registry.take mark).inFlight.getD 0 =
        registry.inFlight.getD 0 + if mark.isBegin then 1 else -1 := by
      cases mark with
      | begins => rfl
      | ends endpoint answered => cases answered <;> rfl
    rw [List.foldl_cons, inductionHypothesis, first, List.countP_cons, List.countP_cons]
    cases mark.isBegin <;> simp <;> omega

theorem requestCount_take (registry : Registry) (endpoint : Endpoint) (status : Status) (mark : Mark) :
    (registry.take mark).requestCount endpoint status =
      registry.requestCount endpoint status + (mark.isAnswerOf endpoint status).toNat := by
  cases mark with
  | begins => rfl
  | ends other answered =>
    cases answered with
    | none => rfl
    | some answer =>
      obtain ⟨answered, took⟩ := answer
      by_cases same : other = endpoint ∧ answered = status
      · obtain ⟨rfl, rfl⟩ := same
        simp [take, moveGauge, observe, requestCount, lookup_bump, Mark.isAnswerOf]
      · have differs : (endpoint, status.code) ≠ (other, answered.code) := by
          intro equal
          obtain ⟨endpoints, codes⟩ := Prod.mk.inj equal
          exact same ⟨endpoints.symm, status_eq codes.symm⟩
        simp [take, moveGauge, observe, requestCount, lookup_bump_of_ne _ differs, Mark.isAnswerOf, same]

/-- A series counts the passes that answered at its endpoint with its status. -/
theorem requestCount_foldl (registry : Registry) (endpoint : Endpoint) (status : Status) (seen : List Mark) :
    (seen.foldl take registry).requestCount endpoint status =
      registry.requestCount endpoint status + seen.countP (Mark.isAnswerOf endpoint status) := by
  induction seen generalizing registry with
  | nil => rfl
  | cons mark seen inductionHypothesis =>
    rw [List.foldl_cons, inductionHypothesis, requestCount_take, List.countP_cons]
    cases mark.isAnswerOf endpoint status with
    | true =>
      simp only [Bool.toNat_true, if_true]
      omega
    | false => simp

/-- All that is counted. -/
def answered (registry : Registry) : Nat := (registry.requests.map Prod.snd).sum

/-- All that is counted at an endpoint, whatever the status. -/
def answeredAt (registry : Registry) (endpoint : Endpoint) : Nat :=
  ((registry.requests.filter fun series => series.1.1 = endpoint).map Prod.snd).sum

theorem answered_take (registry : Registry) (mark : Mark) :
    (registry.take mark).answered = registry.answered + mark.isAnswer.toNat := by
  cases mark with
  | begins => rfl
  | ends endpoint answered =>
    cases answered with
    | none => rfl
    | some answer =>
      have counted := sum_filter_bump (endpoint, answer.1.code) (fun _ => true) registry.requests
      simpa [take, moveGauge, observe, Registry.answered, Mark.isAnswer] using counted

/-- Every pass that answered is counted once, and no other one is. -/
theorem answered_foldl (registry : Registry) (seen : List Mark) :
    (seen.foldl take registry).answered = registry.answered + seen.countP Mark.isAnswer := by
  induction seen generalizing registry with
  | nil => rfl
  | cons mark seen inductionHypothesis =>
    rw [List.foldl_cons, inductionHypothesis, answered_take, List.countP_cons]
    cases mark.isAnswer with
    | true =>
      simp only [Bool.toNat_true, if_true]
      omega
    | false => simp

/-- The two tables of a registry agree: no series stands twice in a table, and at every endpoint as many durations
are observed as requests are counted. -/
structure Agrees (registry : Registry) : Prop where
  requests : (registry.requests.map Prod.fst).Nodup
  durations : (registry.durations.map Prod.fst).Nodup
  observed : ∀ endpoint, registry.observationCount endpoint = registry.answeredAt endpoint

theorem keys_lengths {Key Item : Type} (lists : List (Key × List Item)) :
    (lengths lists).map Prod.fst = lists.map Prod.fst := by
  simp [lengths]

theorem observationCount_eq (registry : Registry) (endpoint : Endpoint) :
    registry.observationCount endpoint = ((lengths registry.durations).lookup endpoint).getD 0 :=
  (lookup_lengths registry.durations).symm

theorem Agrees.observe (agrees : registry.Agrees) (endpoint : Endpoint) (status : Status) (took : Duration) :
    (registry.observe endpoint status took).Agrees where
  requests := nodup_keys_bump agrees.requests
  durations := by
    rw [← keys_lengths, Registry.observe, lengths_collect]
    exact nodup_keys_bump ((keys_lengths registry.durations).symm ▸ agrees.durations)
  observed := by
    intro other
    have former := agrees.observed other
    have counted := sum_filter_bump (endpoint, status.code) (fun key => decide (key.1 = other))
      registry.requests
    rw [observationCount_eq, answeredAt] at former ⊢
    rw [Registry.observe, lengths_collect, counted, ← former]
    by_cases same : endpoint = other
    · subst same
      simp [lookup_bump]
    · simp [lookup_bump_of_ne _ (Ne.symm same), same]

theorem Agrees.foldl (agrees : registry.Agrees) (seen : List Mark) : (seen.foldl take registry).Agrees := by
  induction seen generalizing registry with
  | nil => exact agrees
  | cons mark seen inductionHypothesis =>
    refine inductionHypothesis ?_
    cases mark with
    | begins => exact ⟨agrees.requests, agrees.durations, agrees.observed⟩
    | ends endpoint answered =>
      cases answered with
      | none => exact ⟨agrees.requests, agrees.durations, agrees.observed⟩
      | some answer =>
        have observed := agrees.observe endpoint answer.1 answer.2
        exact ⟨observed.requests, observed.durations, observed.observed⟩

/-- The endpoints under which anything is counted or observed. -/
def endpoints (registry : Registry) : List Endpoint :=
  registry.requests.map (·.1.1) ++ registry.durations.map Prod.fst

/-- Only endpoints of passes that end come into the registry. -/
theorem endpoints_foldl {known : Endpoint → Prop} (registered : ∀ endpoint ∈ registry.endpoints, known endpoint)
    {seen : List Mark} (marked : ∀ endpoint answered, .ends endpoint answered ∈ seen → known endpoint) :
    ∀ endpoint ∈ (seen.foldl take registry).endpoints, known endpoint := by
  induction seen generalizing registry with
  | nil => exact registered
  | cons mark seen inductionHypothesis =>
    refine inductionHypothesis ?_ fun endpoint answered present =>
      marked endpoint answered (List.mem_cons_of_mem _ present)
    cases mark with
    | begins => exact registered
    | ends endpoint answered =>
      cases answered with
      | none => exact registered
      | some answer =>
        have here : known endpoint := marked endpoint _ List.mem_cons_self
        intro other present
        rcases List.mem_append.mp present with requested | timed
        · obtain ⟨series, inside, rfl⟩ := List.mem_map.mp requested
          rcases mem_keys_bump (List.mem_map_of_mem inside) with new | old
          · rw [new]
            exact here
          · obtain ⟨former, there, same⟩ := List.mem_map.mp old
            exact registered _ (List.mem_append_left _ (List.mem_map.mpr ⟨former, there, by rw [same]⟩))
        · have keys : other ∈ (bump endpoint (lengths registry.durations)).map Prod.fst := by
            rw [← lengths_collect answer.2, keys_lengths]
            exact timed
          rcases mem_keys_bump keys with rfl | old
          · exact here
          · exact registered _ (List.mem_append_right _ (keys_lengths registry.durations ▸ old))

end Metrics.Registry

end ServiceHost
