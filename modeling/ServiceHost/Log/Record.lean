import ServiceHost.Log.Level
import ServiceHost.Log.Timestamp

/-!
Structured records. An entry is what is said; a record is an entry that was kept, together with the spans
that were open around it.
-/

namespace ServiceHost.Log

/-- The value of a field. -/
inductive Value where
  | text (value : String)
  | number (value : Nat)
  | flag (value : Bool)
  /-- An instant, shown with a number of places behind the second. -/
  | instant (value : Timestamp) (places : Nat)
  /-- A measured length of time in milliseconds. -/
  | elapsed (millis : Nat)
  /-- The stack of calls at a place in the program. -/
  | stack (value : String)
  deriving DecidableEq, Repr

/-- Named values in order. -/
abbrev Fields := List (String × Value)

/-- Something that happened, with its severity, a fixed message and the particulars. -/
structure Entry where
  level : Level
  message : String
  fields : Fields := []
  deriving DecidableEq, Repr

/-- A stretch of work to which entries belong. -/
structure Span where
  name : String
  level : Level
  fields : Fields := []
  deriving DecidableEq, Repr

/-- An entry within its open spans, the outermost first. -/
structure Record where
  spans : List Span
  entry : Entry
  deriving DecidableEq, Repr

/-- The fields of a record: those of its spans from the outermost on, and then its own. -/
def Record.fields (record : Record) : Fields :=
  record.spans.flatMap Span.fields ++ record.entry.fields

/-- The value of a field of a record is the innermost one of that name. -/
def Record.field? (record : Record) (name : String) : Option Value :=
  record.fields.reverse.lookup name

/-- The fields of which none is hidden by a later one of the same name. -/
def Fields.visible : Fields → Fields
  | [] => []
  | field :: rest => if rest.any (·.1 = field.1) then visible rest else field :: visible rest

/-- The spans that exist under a capture. -/
def Capture.spans (capture : Capture) (spans : List Span) : List Span :=
  spans.filter fun span => capture.keeps span.level

/-- The record of an entry in spans, if the capture keeps it. -/
def Capture.record? (capture : Capture) (spans : List Span) (entry : Entry) : Option Record :=
  if capture.keeps entry.level then some ⟨capture.spans spans, entry⟩ else none

end ServiceHost.Log
