import ServiceHost.Context

/-!
Path patterns. A pattern is a list of segments: a literal stands for itself, a capture in braces for any
one segment of the path, and a capture with an asterisk for the rest of it. Slashes at the ends and
repeated slashes count for nothing in patterns and paths.
-/

namespace ServiceHost.Routing

/-- A segment of a pattern. -/
inductive Segment where
  | literal (text : String)
  | capture (name : String)
  | rest (name : String)
  deriving DecidableEq, Repr

/-- A pattern. -/
abbrev Pattern := List Segment

/-- The segments of a path, its empty ones left out. -/
def pathSegments (path : String) : List String :=
  ((Text.pieces '/' path.toList).filter (!·.isEmpty)).map String.ofList

/-- The name between the braces of a capture. -/
def braced? (text : List Char) : Option (List Char) :=
  match text with
  | '\x7b' :: inside => if inside.getLast? = some '\x7d' then some inside.dropLast else none
  | _ => none

/-- The segment that a text denotes. -/
def Segment.ofString (text : String) : Segment :=
  match braced? text.toList with
  | none => .literal text
  | some ('*' :: name) => .rest (String.ofList name)
  | some name => .capture (String.ofList name)

/-- The pattern that a text denotes. -/
def Pattern.ofString (text : String) : Pattern :=
  (pathSegments text).map Segment.ofString

/-- Matches segments against the segments of a path and adds what they capture to parameters. -/
def Pattern.matchFrom (parameters : Parameters) : Pattern → List String → Option Parameters
  | [], [] => some parameters
  | [], _ :: _ => none
  | .rest name :: _, path => some (parameters.set name ("/".intercalate path))
  | _ :: _, [] => none
  | .literal text :: pattern, first :: path =>
    if first = text then matchFrom parameters pattern path else none
  | .capture name :: pattern, first :: path =>
    matchFrom (parameters.set name first) pattern path

/-- The parameters with which a pattern matches a path. -/
def Pattern.match? (pattern : Pattern) (path : String) : Option Parameters :=
  pattern.matchFrom Parameters.empty (pathSegments path)

end ServiceHost.Routing
