import ServiceHost.Text.Decimal

/-!
Instants of the wall clock and their text in universal time.
-/

namespace ServiceHost.Log

/-- An instant, counted in nanoseconds from the start of 1970. -/
structure Timestamp where
  nanos : Int
  deriving DecidableEq, Repr, Inhabited

/-- A day of the calendar. -/
structure Day where
  year : Int
  month : Nat
  day : Nat
  deriving DecidableEq, Repr

/-- The day that lies a number of days after the first of January 1970. Years are counted from March on,
so that the leap day ends one, and in eras of four hundred years, which have 146097 days each. -/
def Day.ofEpoch (days : Int) : Day :=
  let shifted := days + 719468
  let era := shifted.fdiv 146097
  let dayOfEra := (shifted - era * 146097).toNat
  let yearOfEra := (dayOfEra - dayOfEra / 1460 + dayOfEra / 36524 - dayOfEra / 146096) / 365
  let dayOfYear := dayOfEra - (365 * yearOfEra + yearOfEra / 4 - yearOfEra / 100)
  let monthFromMarch := (5 * dayOfYear + 2) / 153
  let month := if monthFromMarch < 10 then monthFromMarch + 3 else monthFromMarch - 9
  let year := era * 400 + yearOfEra
  ⟨if month ≤ 2 then year + 1 else year, month, dayOfYear - (153 * monthFromMarch + 2) / 5 + 1⟩

namespace Timestamp

/-- The whole milliseconds from an earlier instant, none if it is later. -/
def millisSince (now earlier : Timestamp) : Nat :=
  (now.nanos - earlier.nanos).toNat / 1000000

@[simp] theorem millisSince_self (now : Timestamp) : now.millisSince now = 0 := by
  simp [millisSince]

/-- The date, the time of day and a fraction of a number of places, in universal time. -/
def render (instant : Timestamp) (places : Nat) : String :=
  let seconds := instant.nanos.fdiv 1000000000
  let subsecond := (instant.nanos - seconds * 1000000000).toNat
  let days := seconds.fdiv 86400
  let secondOfDay := (seconds - days * 86400).toNat
  let day := Day.ofEpoch days
  String.ofList
    (Text.padded 4 day.year.toNat ++ ['-'] ++ Text.padded 2 day.month ++ ['-'] ++
      Text.padded 2 day.day ++ ['T'] ++ Text.padded 2 (secondOfDay / 3600) ++ [':'] ++
      Text.padded 2 (secondOfDay / 60 % 60) ++ [':'] ++ Text.padded 2 (secondOfDay % 60) ++ ['.'] ++
      Text.padded places (subsecond / Text.tenTo (9 - places)) ++ ['Z'])

end Timestamp

example : Timestamp.render ⟨951827696123456789⟩ 3 = "2000-02-29T12:34:56.123Z" := by decide +kernel

end ServiceHost.Log
