import ServiceHost.Pipeline.Course

/-!
What the events of requests do to the registry of metrics.
-/

namespace ServiceHost

/-- The registry after something happened. A pass raises the gauge when it begins and lowers it when it
ends; only an answered pass is counted and timed. The counter, the histogram and the gauge are updated one
after the other at the end of a pass, without a pause between them, and taken as one event here. -/
def Metrics.Registry.absorb (registry : Metrics.Registry) (what : Happening) : Metrics.Registry :=
  match what with
  | .note _ => registry
  | .record _ => registry
  | .began => registry.moveGauge 1
  | .ended endpoint (some (status, took)) => (registry.observe endpoint status took).moveGauge (-1)
  | .ended _ none => registry.moveGauge (-1)

/-- The registry after some events in order. -/
def Metrics.Registry.absorbAll (registry : Metrics.Registry) (events : List Event) : Metrics.Registry :=
  events.foldl (fun registry event => registry.absorb event.what) registry

/-- The labels that events wrote into the journal, in order. -/
def journal (events : List Event) : List String :=
  events.filterMap fun event =>
    match event.what with
    | .note label => some label
    | _ => none

/-- The records that events left in the log, in order. -/
def records (events : List Event) : List Log.Record :=
  events.filterMap fun event =>
    match event.what with
    | .record record => some record
    | _ => none

end ServiceHost
