import ServiceHost.Duration
import ServiceHost.Http.Status

/-!
The registry of request metrics: how many requests were answered with which status, how long they took,
and how many are in flight. The path of a request is the pattern of its route, so that the number of
series does not grow with what is asked for.
-/

namespace ServiceHost.Metrics

open Http

/-- The method and the path pattern by which durations are told apart. -/
structure Endpoint where
  method : String
  path : String
  deriving DecidableEq, Repr

/-- Counts by key in the order in which the keys were first seen. -/
def bump [DecidableEq Key] (key : Key) : List (Key × Nat) → List (Key × Nat)
  | [] => [(key, 1)]
  | (other, count) :: rest =>
    if other = key then (other, count + 1) :: rest else (other, count) :: bump key rest

/-- Lists by key in the order in which the keys were first seen. -/
def collect [DecidableEq Key] (key : Key) (item : Item) : List (Key × List Item) → List (Key × List Item)
  | [] => [(key, [item])]
  | (other, items) :: rest =>
    if other = key then (other, items ++ [item]) :: rest else (other, items) :: collect key item rest

/-- What was measured so far. The gauge has no value before the first pass began. -/
structure Registry where
  requests : List ((Endpoint × Nat) × Nat) := []
  durations : List (Endpoint × List Duration) := []
  inFlight : Option Int := none
  deriving Repr, Inhabited

namespace Registry

def empty : Registry := {}

/-- The number of requests answered at an endpoint with a status. -/
def requestCount (registry : Registry) (endpoint : Endpoint) (status : Status) : Nat :=
  (registry.requests.lookup (endpoint, status.code)).getD 0

/-- The number of durations observed at an endpoint. -/
def observationCount (registry : Registry) (endpoint : Endpoint) : Nat :=
  ((registry.durations.lookup endpoint).getD []).length

/-- Counts a request and observes how long it took. -/
def observe (registry : Registry) (endpoint : Endpoint) (status : Status) (took : Duration) : Registry :=
  { registry with
    requests := bump (endpoint, status.code) registry.requests
    durations := collect endpoint took registry.durations }

/-- Moves the gauge of requests in flight. -/
def moveGauge (registry : Registry) (by_ : Int) : Registry :=
  { registry with inFlight := some (registry.inFlight.getD 0 + by_) }

end Registry

theorem lookup_bump [DecidableEq Key] [BEq Key] [LawfulBEq Key] (key : Key) (counts : List (Key × Nat)) :
    ((bump key counts).lookup key).getD 0 = (counts.lookup key).getD 0 + 1 := by
  induction counts with
  | nil => simp [bump]
  | cons entry rest inductionHypothesis =>
    obtain ⟨other, count⟩ := entry
    unfold bump
    by_cases same : other = key
    · simp [same]
    · have flipped : (key == other) = false := by simpa using fun eq => same eq.symm
      simp [same, List.lookup_cons, flipped, inductionHypothesis]

theorem lookup_bump_of_ne [DecidableEq Key] [BEq Key] [LawfulBEq Key] {key other : Key}
    (counts : List (Key × Nat)) (different : other ≠ key) : (bump key counts).lookup other = counts.lookup other := by
  have apart : (other == key) = false := by simpa using different
  induction counts with
  | nil => simp [bump, List.lookup_cons, apart]
  | cons entry rest inductionHypothesis =>
    obtain ⟨here, count⟩ := entry
    unfold bump
    by_cases same : here = key
    · subst same
      simp [List.lookup_cons, apart]
    · simp [same, List.lookup_cons, inductionHypothesis]

end ServiceHost.Metrics
