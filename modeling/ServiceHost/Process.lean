import ServiceHost.Context
import ServiceHost.Duration
import ServiceHost.Envelope

/-!
Processes: what a handler or a stage of the caller does, as a finite list of acts with a result behind
them. A process takes time only by resting.
-/

namespace ServiceHost

/-- What a panic carries. -/
inductive Panic where
  | text (message : String)
  | other
  deriving DecidableEq, Repr, Inhabited

/-- The message of a panic. -/
def Panic.message : Panic → String
  | .text message => message
  | .other => "Box<dyn Any>"

/-- One act of a process. -/
inductive Act where
  /-- Writes a label into the journal of effects. -/
  | note (label : String)
  | log (entry : Log.Entry)
  | change (change : Context → Context)
  | rest (millis : Nat)

/-- Rests for some milliseconds, and for no longer than a timer without an end. -/
def Act.pause (millis : Nat) : Act := .rest (min millis Duration.thirtyYears)

/-- A finite course of acts that ends with a value or a panic. -/
structure Process (α : Type) where
  acts : List Act := []
  result : Except Panic α

namespace Process

/-- The process that does nothing and ends with a value. -/
def done (value : α) : Process α := ⟨[], .ok value⟩

/-- The process that panics at once. -/
def panicking (panic : Panic) : Process α := ⟨[], .error panic⟩

/-- The process with some acts in front of it. -/
def after (acts : List Act) (process : Process α) : Process α :=
  { process with acts := acts ++ process.acts }

/-- One process and then another that depends on the value of the first. -/
def andThen (first : Process α) (next : α → Process β) : Process β :=
  match first.result with
  | .error panic => ⟨first.acts, .error panic⟩
  | .ok value => (next value).after first.acts

@[simp] theorem done_andThen (value : α) (next : α → Process β) :
    (done value).andThen next = next value := by
  simp [andThen, done, after]

end Process

/-- The process that makes the entries of an answer and ends with its response. -/
def Envelope.Answer.process (answer : Envelope.Answer) : Process Http.Response where
  acts := answer.entries.map .log
  result := .ok answer.response

end ServiceHost
