import ServiceHost.Text.Alphanumeric
import ServiceHost.Text.Blank
import ServiceHost.Text.Decimal
import ServiceHost.Text.Fold
import ServiceHost.Text.Pieces
import ServiceHost.Text.RegularExpression

/-!
Filters of log records: lists of directives, each of which lets a part of the program speak up to a
level. A directive is a level, a target, or a target with a level; it may also name a span with fields
and ask a field for a value, which is a number or matches a regular expression.
-/

namespace ServiceHost.Log.Filter

/-- How much a directive lets through. -/
inductive Threshold where
  | off
  | error
  | warn
  | info
  | debug
  | trace
  deriving DecidableEq, Repr

namespace Threshold

/-- All thresholds from the most silent to the most verbose. -/
def all : List Threshold := [.off, .error, .warn, .info, .debug, .trace]

/-- The number of a threshold. -/
def rank : Threshold → Nat
  | .off => 0
  | .error => 1
  | .warn => 2
  | .info => 3
  | .debug => 4
  | .trace => 5

/-- The name of a threshold. -/
def name : Threshold → String
  | .off => "off"
  | .error => "error"
  | .warn => "warn"
  | .info => "info"
  | .debug => "debug"
  | .trace => "trace"

/-- The threshold of a text: its number, its name in any ASCII case, or nothing for errors alone. -/
def ofString? (text : String) : Option Threshold :=
  if text.isEmpty then some .error
  else
    match Text.readNatural Text.wordBound text.toList with
    | .ok number => all[number]?
    | .error _ => all.find? fun threshold => Text.sameAsciiCaseless threshold.name text

/-- The more verbose of two thresholds. -/
def louder (first second : Threshold) : Threshold :=
  if first.rank ≤ second.rank then second else first

end Threshold

/-- Why a text is no filter. -/
inductive Fault where
  | directive
  | level
  | field (fault : RegularExpression.Fault)
  deriving DecidableEq, Repr

/-- The wording of a fault. -/
def Fault.message : Fault → String
  | .directive => "invalid filter directive"
  | .level =>
    "error parsing level filter: expected one of \"off\", \"error\", \"warn\", \"info\", " ++
      "\"debug\", \"trace\", or a number 0-5"
  | .field fault => "invalid field filter: " ++ fault.message

/-- How the reading of a directive stands. Places count the characters read so far. -/
inductive State where
  | start
  | levelOrTarget
  | span
  | field (start : Nat)
  | fields
  | target
  | level (start : Nat)

/-- What was read of a directive: the state, and whether a field is asked for a value. -/
structure Progress where
  state : State := .start
  asksValue : Bool := false

/-- A directive that was read: up to where it lets through, and whether it asks a field for a value. -/
structure Directive where
  threshold : Threshold
  asksValue : Bool
  deriving DecidableEq, Repr

/-- The characters of a text between two places. -/
def cut (text : List Char) (start stop : Nat) : List Char :=
  (text.drop start).take (stop - start)

/-- Checks the value that a field is asked for. It ends at a second equals sign. -/
def checkField (field : List Char) : Except Fault Unit :=
  match Text.pieces '=' field with
  | _ :: value :: _ =>
    if Text.isReal value then .ok () else (RegularExpression.check value).mapError .field
  | _ => .ok ()

/-- The reading after one more character, which stands at a place of the text. -/
def step (text : List Char) (progress : Progress) (place : Nat) (c : Char) : Except Fault Progress :=
  let closeField (start : Nat) (next : State) : Except Fault Progress :=
    let field := cut text start place
    if field.isEmpty then .error .directive
    else
      (checkField field).map fun _ => ⟨next, progress.asksValue || field.contains '='⟩
  match progress.state with
  | .start =>
    if c = '[' then .ok { progress with state := .span }
    else if c = '-' ∨ c = ':' ∨ c = '_' ∨ Text.isAlphanumeric c then
      .ok { progress with state := .levelOrTarget }
    else .error .directive
  | .levelOrTarget =>
    if c = '=' then .ok { progress with state := .level (place + 1) }
    else if c = '[' then .ok { progress with state := .span }
    else .ok progress
  | .span =>
    if c = ']' then .ok { progress with state := .target }
    else if c = '\x7b' then .ok { progress with state := .field (place + 1) }
    else .ok progress
  | .field start => if c = '\x7d' then closeField start .fields else .ok progress
  | .fields => if c = ']' then .ok { progress with state := .target } else .error .directive
  | .target =>
    if c = '=' then .ok { progress with state := .level (place + 1) } else .error .directive
  | .level _ => .ok progress

/-- Reads the characters of a directive from a place on. -/
def scan (text : List Char) : Progress → Nat → List Char → Except Fault Progress
  | progress, _, [] => .ok progress
  | progress, place, c :: rest =>
    match step text progress place c with
    | .error fault => .error fault
    | .ok next => scan text next (place + 1) rest

/-- The directive of a text. Its characters are read without the blanks at its ends, but levels are cut
from the whole text at the places counted. -/
def readDirective (text : List Char) : Except Fault Directive :=
  match scan text {} 0 (Text.stripWhere Text.isBlank text) with
  | .error fault => .error fault
  | .ok progress =>
    match progress.state with
    | .levelOrTarget =>
      .ok ⟨(Threshold.ofString? (String.ofList text)).getD .trace, progress.asksValue⟩
    | .level start =>
      let level := String.ofList (text.drop start)
      if level.isEmpty then .ok ⟨.trace, progress.asksValue⟩
      else
        match Threshold.ofString? level with
        | none => .error .level
        | some threshold => .ok ⟨threshold, progress.asksValue⟩
    | .target => .ok ⟨.trace, progress.asksValue⟩
    | _ => .error .directive

/-- The directives of a filter. -/
def read (filter : String) : Except Fault (List Directive) :=
  ((Text.pieces ',' filter.toList).filter (!·.isEmpty)).mapM readDirective

/-- Up to where any part of the program may speak. A filter without directives silences all of it, and one
that asks for the value of a field cannot exclude anything beforehand. -/
def loudest (directives : List Directive) : Threshold :=
  if directives.any Directive.asksValue then .trace
  else directives.foldl (fun threshold directive => threshold.louder directive.threshold) .off

/-- The directives of the environment, if they can be read, and else those of a filter. -/
def choose (environment : Option String) (filter : String) : Except Fault (List Directive) :=
  match environment.map read with
  | some (.ok directives) => .ok directives
  | _ => read filter

end ServiceHost.Log.Filter
