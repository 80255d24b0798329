import ServiceHost.Http.Method
import ServiceHost.Routing.Pattern

/-!
Route tables and how a request is resolved in one: the first entry that matches its method and path has
it; where only methods differ, the methods of all matching entries are told.
-/

namespace ServiceHost.Routing

open Http

/-- An entry of a table. -/
structure Entry (α : Type) where
  method : Method
  pattern : Pattern
  target : α

/-- What a table makes of a request. -/
inductive Resolution (α : Type) where
  | found (entry : Entry α) (parameters : Parameters)
  | notAllowed (methods : List Method)
  | notFound

/-- Resolves a request in the entries of a table behind some that matched only its path. -/
def resolveFrom (allowed : List Method) (method : Method) (path : List String) :
    List (Entry α) → Resolution α
  | [] => if allowed.isEmpty then .notFound else .notAllowed allowed
  | entry :: rest =>
    match entry.pattern.matchFrom Parameters.empty path with
    | none => resolveFrom allowed method path rest
    | some parameters =>
      if entry.method = method then .found entry parameters
      else if entry.method ∈ allowed then resolveFrom allowed method path rest
      else resolveFrom (allowed ++ [entry.method]) method path rest

/-- Resolves a request in a table. -/
def resolve (table : List (Entry α)) (method : Method) (path : String) : Resolution α :=
  resolveFrom [] method (pathSegments path) table

end ServiceHost.Routing
