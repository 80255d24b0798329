import ServiceHost.Json
import ServiceHost.Log.Timestamp
import ServiceHost.Net.Peer

/-!
The context that travels with a request: its trace id, when and from where it arrived, and the parameters
captured from its path. Stages change it, and the handler receives a copy.
-/

namespace ServiceHost

/-- Named texts, at most one a name. A name that is set again keeps its place. -/
structure Parameters where
  entries : List (String × String) := []
  deriving DecidableEq, Repr, Inhabited

namespace Parameters

def empty : Parameters := {}

/-- The value of a name. -/
def get? (parameters : Parameters) (name : String) : Option String :=
  parameters.entries.lookup name

/-- The entries with a value for a name at the place of its entry, or at the end. -/
def setIn (name value : String) : List (String × String) → List (String × String)
  | [] => [(name, value)]
  | entry :: rest =>
    if entry.1 = name then (name, value) :: rest else entry :: setIn name value rest

/-- Gives a name this value. -/
def set (parameters : Parameters) (name value : String) : Parameters :=
  ⟨setIn name value parameters.entries⟩

/-- The parameters of a list in which a later value of a name wins. -/
def ofList (entries : List (String × String)) : Parameters :=
  entries.foldl (fun parameters entry => parameters.set entry.1 entry.2) empty

theorem lookup_setIn (name value : String) (entries : List (String × String)) :
    (setIn name value entries).lookup name = some value := by
  induction entries with
  | nil => simp [setIn]
  | cons entry rest inductionHypothesis =>
    obtain ⟨key, stored⟩ := entry
    unfold setIn
    split
    · simp
    · rename_i other
      have flipped : (name == key) = false := by
        simpa using fun same => other same.symm
      simp [List.lookup_cons, flipped, inductionHypothesis]

@[simp] theorem get?_set (parameters : Parameters) (name value : String) :
    (parameters.set name value).get? name = some value :=
  lookup_setIn name value parameters.entries

theorem lookup_setIn_of_ne {name other : String} (value : String) (entries : List (String × String))
    (different : other ≠ name) :
    (setIn name value entries).lookup other = entries.lookup other := by
  have apart : (other == name) = false := by simpa using different
  induction entries with
  | nil => simp [setIn, List.lookup_cons, apart]
  | cons entry rest inductionHypothesis =>
    obtain ⟨key, stored⟩ := entry
    unfold setIn
    split
    · rename_i here
      simp only at here
      subst here
      simp [List.lookup_cons, apart]
    · simp only [List.lookup_cons, inductionHypothesis]

theorem get?_set_of_ne {name other : String} (parameters : Parameters) (value : String)
    (different : other ≠ name) : (parameters.set name value).get? other = parameters.get? other :=
  lookup_setIn_of_ne value parameters.entries different

/-- The parameters as an object whose members are sorted. -/
def json (parameters : Parameters) : Json :=
  Json.sortedObject (parameters.entries.map fun (name, value) => (name, .text value))

end Parameters

/-- What is known of a request besides its message. -/
structure Context where
  traceId : Option String := none
  receivedAt : Option Log.Timestamp := none
  remote : Option Net.Peer := none
  parameters : Parameters := Parameters.empty
  deriving DecidableEq, Repr, Inhabited

namespace Context

/-- The value of a path parameter. -/
def parameter? (context : Context) (name : String) : Option String :=
  context.parameters.get? name

def withTraceId (context : Context) (traceId : String) : Context :=
  { context with traceId := some traceId }

def withParameter (context : Context) (name value : String) : Context :=
  { context with parameters := context.parameters.set name value }

def withParameters (context : Context) (parameters : Parameters) : Context :=
  { context with parameters }

/-- The trace id, or the empty text where there is none. -/
def traceText (context : Context) : String :=
  context.traceId.getD ""

/-- The context as an object whose members are sorted. The instant of arrival shows only whether it is
known. -/
def json (context : Context) : Json :=
  .object
    [("params", context.parameters.json), ("received", .flag context.receivedAt.isSome),
      ("remote", (context.remote.map fun peer => .text peer.render).getD .null),
      ("trace_id", (context.traceId.map .text).getD .null)]

end Context

end ServiceHost
