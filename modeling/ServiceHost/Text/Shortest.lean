import ServiceHost.Text.Decimal

/-!
The shortest decimal of a binary floating point number: of all decimals that round to the number, one
with the fewest digits, and of those the nearest one, the upper at a tie.
-/

namespace ServiceHost.Text

/-- A positive number and the ends of the interval of reals that round to it, all counted in units of
one over the denominator. The ends belong to the interval if it is closed. -/
structure Rounding where
  denominator : Nat
  low : Nat
  value : Nat
  high : Nat
  closed : Bool

/-- The rounding interval of the finite number with these bits, its sign left out. Just above a power of
two the interval reaches down only half as far as up. -/
def Rounding.ofBits (bits : UInt64) : Rounding :=
  let raised := ((bits >>> 52) &&& 0x7FF).toNat
  let stored := (bits &&& 0xFFFFFFFFFFFFF).toNat
  let mantissa := if raised = 0 then stored else twoTo 52 + stored
  let exponent := (if raised = 0 then 1 else raised) - 1
  let scale := twoTo exponent
  ⟨twoTo 1076,
    (if stored = 0 && 1 < raised then 4 * mantissa - 1 else 4 * mantissa - 2) * scale,
    4 * mantissa * scale, (4 * mantissa + 2) * scale, mantissa % 2 = 0⟩

/-- A decimal: a whole number of units of a power of ten. -/
structure Scaled where
  digits : Nat
  exponent : Int
  deriving DecidableEq, Repr

/-- Is the decimal one that rounds to the number? -/
def Rounding.admits (rounding : Rounding) (decimal : Scaled) : Bool :=
  let measured := decimal.digits * tenTo decimal.exponent.toNat * rounding.denominator
  let unit := tenTo (-decimal.exponent).toNat
  if rounding.closed then rounding.low * unit ≤ measured && measured ≤ rounding.high * unit
  else rounding.low * unit < measured && measured < rounding.high * unit

/-- The exponent of the power of ten just above the number. -/
def Rounding.magnitude (rounding : Rounding) : Int :=
  if rounding.denominator ≤ rounding.value then
    (Nat.toDigits 10 (rounding.value / rounding.denominator)).length
  else
    let shift := (List.range 400).find? fun places =>
      rounding.denominator ≤ rounding.value * tenTo places
    1 - (shift.getD 0 : Nat)

/-- The nearest of the two decimals around the number with a given exponent, if one of them rounds to
it. -/
def Rounding.onGrid (rounding : Rounding) (exponent : Int) : Option Scaled :=
  let counted := rounding.value * tenTo (-exponent).toNat
  let unit := rounding.denominator * tenTo exponent.toNat
  let below : Scaled := ⟨counted / unit, exponent⟩
  let above : Scaled := ⟨counted / unit + 1, exponent⟩
  match rounding.admits below, rounding.admits above with
  | true, true => if 2 * (counted % unit) < unit then some below else some above
  | true, false => some below
  | false, true => some above
  | false, false => none

/-- The shortest decimal of a positive number. -/
def Rounding.shortest (rounding : Rounding) : Scaled :=
  let magnitude := rounding.magnitude
  let found := (List.range 17).findSome? fun index =>
    rounding.onGrid (magnitude - (index + 1 : Nat))
  found.getD ⟨rounding.value * tenTo 1076 / rounding.denominator, -1076⟩

/-- A decimal in positional notation. -/
def Scaled.positional (decimal : Scaled) : List Char :=
  let places := (-decimal.exponent).toNat
  let whole := decimal.digits * tenTo decimal.exponent.toNat
  Nat.toDigits 10 (whole / tenTo places) ++ fraction places (whole % tenTo places)

/-- The positional text of a floating point number. -/
def positional (number : Float) : String :=
  let bits := number.toBits
  let size := bits &&& 0x7FFFFFFFFFFFFFFF
  if 0x7FF0000000000000 < size then "NaN"
  else
    let sign := if bits = size then [] else ['-']
    if size = 0x7FF0000000000000 then String.ofList (sign ++ "inf".toList)
    else if size = 0 then String.ofList (sign ++ ['0'])
    else String.ofList (sign ++ (Rounding.ofBits size).shortest.positional)

/-- The positional text with a fraction in every case. -/
def positionalFraction (number : Float) : String :=
  let text := positional number
  if text.toList.all fun c => c.isDigit || c == '-' then text ++ ".0" else text

end ServiceHost.Text
