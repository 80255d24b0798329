import ServiceHost.Metrics.Registry
import ServiceHost.Runs
import ServiceHost.Text.Shortest

/-!
The text exposition of a registry: for each metric a line with its kind and a line for each of its
series. A histogram shows for each bound how many observations it and the bounds before it hold, their
number and their sum. Observations are kept in blocks, and a sum is rounded block by block.
-/

namespace ServiceHost.Metrics

/-- The upper bounds of the buckets of a histogram, in seconds. There is at least one. -/
structure Buckets where
  bounds : List Float
  some_bound : bounds ≠ []

/-- Why a recorder could not be set up. -/
inductive SetupError where
  | emptyBuckets
  | alreadyInstalled
  deriving DecidableEq, Repr

/-- The wording of a reason. -/
def SetupError.reason : SetupError → String
  | .emptyBuckets => "bucket bounds/quantiles cannot be empty"
  | .alreadyInstalled =>
    "failed to install exporter as global recorder: " ++
      "attempted to set a recorder after the metrics system was already initialized"

/-- The buckets of these bounds, if there are any. -/
def Buckets.ofList (bounds : List Float) : Except SetupError Buckets :=
  match bounds with
  | [] => .error .emptyBuckets
  | first :: rest => .ok ⟨first :: rest, by simp⟩

/-- The bounds that are used where none are given. -/
def defaultBounds : List Float :=
  [0.001, 0.005, 0.01, 0.025, 0.05, 0.1, 0.25, 0.5, 1.0, 2.5, 5.0, 10.0]

def Buckets.default : Buckets := ⟨defaultBounds, by simp [defaultBounds]⟩

/-- The inspection of the settings of a recorder. -/
def inspectBounds (bounds : List Float) : String :=
  "MetricsConfig \x7b duration_buckets: [" ++
    ", ".intercalate (bounds.map Text.positionalFraction) ++ "] \x7d"

/-- A duration in seconds. -/
def inSeconds (duration : Duration) : Float :=
  duration.seconds.toFloat + duration.subsecondNanos.toFloat / 1000000000.0

/-- The number of observations in a full block. -/
def blockSize : Nat := 64

/-- The sum of numbers from the first to the last. -/
def total (numbers : List Float) : Float :=
  numbers.foldl (· + ·) 0.0

/-- The sum of observations: that of the sums of the blocks, of which the latest comes first. -/
def blockTotal (observed : List Float) : Float :=
  total ((runs blockSize observed).reverse.map total)

/-- How many observations the first buckets hold together. Each one goes into the first bucket whose bound
it does not exceed, so that bounds out of order hold no less than those before them. -/
def heldBy (bounds observed : List Float) : Nat :=
  (observed.filter fun seconds => bounds.any (seconds ≤ ·)).length

/-- The text of a label value. Quotes and line feeds are escaped; a backslash is doubled unless it
already escapes a quote, and two backslashes stand for an escaped one. -/
def escapeLabel : (held : Bool) → List Char → List Char
  | false, [] => []
  | true, [] => ['\\', '\\']
  | held, '\n' :: rest => '\\' :: 'n' :: escapeLabel held rest
  | _, '"' :: rest => '\\' :: '"' :: escapeLabel false rest
  | false, '\\' :: rest => escapeLabel true rest
  | true, '\\' :: rest => '\\' :: '\\' :: escapeLabel false rest
  | false, c :: rest => c :: escapeLabel false rest
  | true, c :: rest => '\\' :: '\\' :: c :: escapeLabel false rest

/-- A label with its value. -/
def label (name value : String) : String :=
  name ++ "=\"" ++ String.ofList (escapeLabel false value.toList) ++ "\""

/-- The line of a series. -/
def seriesLine (metric : String) (labels : List String) (value : String) : String :=
  let shown := if labels.isEmpty then "" else "\x7b" ++ ",".intercalate labels ++ "\x7d"
  metric ++ shown ++ " " ++ value

/-- The line that tells the kind of a metric. -/
def kindLine (metric kind : String) : String :=
  "# TYPE " ++ metric ++ " " ++ kind

def requestsMetric : String := "portico_requests_total"

def durationMetric : String := "portico_request_duration_seconds"

def inFlightMetric : String := "portico_in_flight_requests"

/-- The labels that tell an endpoint. -/
def Endpoint.labels (endpoint : Endpoint) : List String :=
  [label "method" endpoint.method, label "path" endpoint.path]

/-- The lines of the request counters. -/
def Registry.counterLines (registry : Registry) : List String :=
  if registry.requests.isEmpty then []
  else
    kindLine requestsMetric "counter" ::
      registry.requests.map fun ((endpoint, status), count) =>
        seriesLine requestsMetric (endpoint.labels ++ [label "status" (toString status)])
          (toString count)

/-- The lines of the gauge of requests in flight. -/
def Registry.gaugeLines (registry : Registry) : List String :=
  match registry.inFlight with
  | none => []
  | some value => [kindLine inFlightMetric "gauge", seriesLine inFlightMetric [] (toString value)]

/-- The lines of the histogram of one endpoint. -/
def histogramLines (buckets : Buckets) (endpoint : Endpoint) (durations : List Duration) :
    List String :=
  let observed := durations.map inSeconds
  let bucketLines := buckets.bounds.mapIdx fun place bound =>
    seriesLine (durationMetric ++ "_bucket") (endpoint.labels ++ [label "le" (Text.positional bound)])
      (toString (heldBy (buckets.bounds.take (place + 1)) observed))
  bucketLines ++
    [seriesLine (durationMetric ++ "_bucket") (endpoint.labels ++ [label "le" "+Inf"])
        (toString observed.length),
      seriesLine (durationMetric ++ "_sum") endpoint.labels
        (Text.positional (blockTotal observed)),
      seriesLine (durationMetric ++ "_count") endpoint.labels (toString observed.length)]

/-- The lines of all histograms. -/
def Registry.durationLines (buckets : Buckets) (registry : Registry) : List String :=
  if registry.durations.isEmpty then []
  else
    kindLine durationMetric "histogram" ::
      registry.durations.flatMap fun (endpoint, durations) => histogramLines buckets endpoint durations

/-- The exposition of a registry. Each metric is followed by an empty line. -/
def Registry.exposition (buckets : Buckets) (registry : Registry) : String :=
  let sections := [registry.counterLines, registry.gaugeLines, registry.durationLines buckets]
  let shown := (sections.filter (!·.isEmpty)).map fun lines => "\n".intercalate lines ++ "\n\n"
  String.join shown

end ServiceHost.Metrics
