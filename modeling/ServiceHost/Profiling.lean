import ServiceHost.Handlers

/-!
Introspection of the running process. The rest of the path selects a profile; nothing selects the listing
of them.
-/

namespace ServiceHost.Profiling

open Http

/-- The parameter that selects a profile. -/
def optionParameter : String := "option"

/-- The profiles with their descriptions. -/
def profiles : List (String × String) :=
  [("runtime", "Tokio runtime worker and task metrics"),
    ("memory", "Physical and virtual memory of the process"),
    ("backtrace", "Backtrace of the serving thread"),
    ("build", "Name and version of the server crate")]

/-- The listing of the profiles. -/
def listing : Json :=
  .array (profiles.map fun (name, description) =>
    .object
      [("name", .text name), ("path", .text ("/pprof/" ++ name)), ("description", .text description)])

/-- The profile of the build. -/
def build : Json :=
  .object [("name", .text "portico-server"), ("version", .text "0.1.0")]

/-- The profile of the runtime. -/
def runtime (figures : RuntimeFigures) : Json :=
  .object
    [("workers", Json.natural figures.workers), ("alive_tasks", Json.natural figures.aliveTasks),
      ("global_queue_depth", Json.natural figures.globalQueueDepth)]

/-- The profile of the memory. -/
def memory (figures : MemoryFigures) : Json :=
  .object
    [("physical_bytes", Json.natural figures.physical), ("virtual_bytes", Json.natural figures.virtual_)]

/-- Answers with figures as JSON, or with 503 where there are none. -/
def figuresAnswer (figures : Option Json) : Handler :=
  match figures with
  | none => Handler.status Status.serviceUnavailable
  | some content => Handler.json Status.ok content

/-- The profile that a call selects. Slashes at the ends of the selection count for nothing. -/
def selection (context : Context) : String :=
  let option := (context.parameter? optionParameter).getD ""
  String.ofList (Text.stripWhere (· == '/') option.toList)

/-- The handler of profiles. -/
def handler : Handler := fun call =>
  match selection call.context with
  | "" => Handler.json Status.ok listing call
  | "runtime" => figuresAnswer (call.world.runtime.map runtime) call
  | "memory" => figuresAnswer (call.world.memory.map memory) call
  | "backtrace" => Handler.text Status.ok call.world.stack call
  | "build" => Handler.json Status.ok build call
  | _ => Handler.status Status.notFound call

end ServiceHost.Profiling
