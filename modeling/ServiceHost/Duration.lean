import ServiceHost.Text.Decimal

/-!
Lengths of time in whole nanoseconds.
-/

namespace ServiceHost

/-- A length of time. -/
structure Duration where
  nanos : Nat
  deriving DecidableEq, Repr, Inhabited

namespace Duration

/-- No time at all. As a limit it means that there is none. -/
def zero : Duration := ⟨0⟩

def ofSeconds (seconds : Nat) : Duration := ⟨seconds * 1000000000⟩

def ofMillis (millis : Nat) : Duration := ⟨millis * 1000000⟩

/-- Whole seconds and the nanoseconds beyond them. -/
def ofParts (seconds nanos : Nat) : Duration := ⟨seconds * 1000000000 + nanos⟩

def seconds (duration : Duration) : Nat := duration.nanos / 1000000000

def subsecondNanos (duration : Duration) : Nat := duration.nanos % 1000000000

/-- Whole milliseconds, a started one left out. -/
def floorMillis (duration : Duration) : Nat := duration.nanos / 1000000

/-- Whole milliseconds, a started one counted. -/
def ceilMillis (duration : Duration) : Nat := (duration.nanos + 999999) / 1000000

/-- The milliseconds of thirty years, for which a timer without an end waits. -/
def thirtyYears : Nat := 946080000000

/-- The number of seconds that no clock reaches. -/
def clockReach : Nat := Text.twoTo 63 - 1

/-- The milliseconds that a timer waits. One that would go beyond the reach of the clock has no end. -/
def timerMillis (duration : Duration) : Nat :=
  if duration.seconds < clockReach then duration.ceilMillis else thirtyYears

def isZero (duration : Duration) : Bool := duration.nanos == 0

@[simp] theorem isZero_iff {duration : Duration} : duration.isZero ↔ duration = zero := by
  cases duration
  simp [isZero, zero]

theorem ceilMillis_pos {duration : Duration} (positive : duration ≠ zero) :
    0 < duration.ceilMillis := by
  have : duration.nanos ≠ 0 := fun none => positive (by cases duration; simp_all [zero])
  unfold ceilMillis
  omega

theorem timerMillis_pos {duration : Duration} (positive : duration ≠ zero) :
    0 < duration.timerMillis := by
  unfold timerMillis
  split
  · exact ceilMillis_pos positive
  · decide

/-- A whole number of units, the fraction of the next one, and the unit's sign. -/
def inUnit (nanos unit places : Nat) (sign : String) : String :=
  String.ofList (Nat.toDigits 10 (nanos / unit) ++ Text.fraction places (nanos % unit)) ++ sign

/-- The inspection of a duration uses the largest unit of which it holds a whole one, and leaves out
the zeros at the end of the fraction. -/
def inspect (duration : Duration) : String :=
  let nanos := duration.nanos
  if 1000000000 ≤ nanos then inUnit nanos 1000000000 9 "s"
  else if 1000000 ≤ nanos then inUnit nanos 1000000 6 "ms"
  else if 1000 ≤ nanos then inUnit nanos 1000 3 "µs"
  else inUnit nanos 1 0 "ns"

end Duration

end ServiceHost
