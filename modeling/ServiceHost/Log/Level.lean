/-!
Severities of records and spans, and the capture that decides which of them are kept.
-/

namespace ServiceHost.Log

/-- The severity of a record or span. -/
inductive Level where
  | trace
  | debug
  | info
  | warn
  | error
  deriving DecidableEq, Repr

namespace Level

/-- The place of a severity in ascending order. -/
def rank : Level → Nat
  | .trace => 0
  | .debug => 1
  | .info => 2
  | .warn => 3
  | .error => 4

/-- The name of a severity in records. -/
def label : Level → String
  | .trace => "TRACE"
  | .debug => "DEBUG"
  | .info => "INFO"
  | .warn => "WARN"
  | .error => "ERROR"

/-- The name of a severity in settings. -/
def name : Level → String
  | .trace => "trace"
  | .debug => "debug"
  | .info => "info"
  | .warn => "warn"
  | .error => "error"

/-- The severity of a name. -/
def ofName? (name : String) : Option Level :=
  [trace, debug, info, warn, error].find? fun level => level.name = name

end Level

/-- A capture keeps what is at least as severe as its level, or nothing at all. -/
structure Capture where
  least : Option Level
  deriving DecidableEq, Repr

namespace Capture

/-- The capture that keeps nothing. -/
def off : Capture := ⟨none⟩

instance : Inhabited Capture := ⟨off⟩

/-- Is something of this severity kept? -/
def keeps (capture : Capture) (level : Level) : Bool :=
  match capture.least with
  | none => false
  | some least => least.rank ≤ level.rank

/-- Are details for debugging wanted? -/
def debugging (capture : Capture) : Bool :=
  capture.keeps .debug

theorem keeps_of_keeps {capture : Capture} {lower higher : Level} (ordered : lower.rank ≤ higher.rank)
    (kept : capture.keeps lower) : capture.keeps higher := by
  unfold keeps at *
  cases found : capture.least with
  | none => simp [found] at kept
  | some least =>
    simp only [found, decide_eq_true_eq] at kept ⊢
    omega

end Capture

end ServiceHost.Log
