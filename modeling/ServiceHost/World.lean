import ServiceHost.Metrics.Exposition
import ServiceHost.PublicIp

/-!
What a request finds around it: the wall clock, random bits, the metrics and the figures of the process
that serves it. The wall clock is read once per request.
-/

namespace ServiceHost

/-- The figures of the runtime that serves requests. -/
structure RuntimeFigures where
  workers : Nat
  aliveTasks : Nat
  globalQueueDepth : Nat
  deriving DecidableEq, Repr, Inhabited

/-- The memory that the process uses, in octets. -/
structure MemoryFigures where
  physical : Nat
  virtual_ : Nat
  deriving DecidableEq, Repr, Inhabited

/-- The surroundings of a request. -/
structure World where
  clock : Log.Timestamp := ⟨0⟩
  /-- Random bits, one supply for each place that asks for some. -/
  random : Nat → Nat := fun _ => 0
  /-- The stack of calls, as far as it can be captured. -/
  stack : String := ""
  runtime : Option RuntimeFigures := none
  memory : Option MemoryFigures := none
  buckets : Metrics.Buckets := Metrics.Buckets.default
  registry : Metrics.Registry := Metrics.Registry.empty
  /-- The provider that is asked for the public address where no other one is configured. -/
  publicIp : PublicIp.Provider := PublicIp.Provider.fixed (.error (.transport "no route to host"))

instance : Inhabited World := ⟨{}⟩

end ServiceHost
