import ServiceHost.Text.Utf8

/-!
Octets in base 64: four digits for three octets, with one or two signs of padding where the last group
is short. Blanks between the digits count for nothing.
-/

namespace ServiceHost.Tls.Base64

/-- The value of a digit. -/
def digit? (octet : UInt8) : Option Nat :=
  let value := octet.toNat
  if 65 ≤ value ∧ value ≤ 90 then some (value - 65)
  else if 97 ≤ value ∧ value ≤ 122 then some (value - 71)
  else if 48 ≤ value ∧ value ≤ 57 then some (value + 4)
  else if value = 43 then some 62
  else if value = 47 then some 63
  else none

/-- The sign of padding. -/
def padding : UInt8 := 61

/-- Is the octet a blank: a space, a tab, or a feed or end of a line or page? -/
def isBlank (octet : UInt8) : Bool :=
  octet == 32 || (decide (9 ≤ octet) && decide (octet ≤ 13))

/-- The three octets of a number of twenty-four bits. -/
def triple (value : Nat) : Bytes :=
  [UInt8.ofNat (value / 65536), UInt8.ofNat (value / 256 % 256), UInt8.ofNat (value % 256)]

/-- The number that digits denote. -/
def number? (digits : List UInt8) : Option Nat :=
  (digits.mapM digit?).map fun values => values.foldl (fun number value => number * 64 + value) 0

/-- The octets of groups of four. Padding ends the last one. -/
def groups? : List UInt8 → Option Bytes
  | [] => some []
  | first :: second :: third :: fourth :: rest =>
    if fourth ≠ padding then do
      let number ← number? [first, second, third, fourth]
      let others ← groups? rest
      return triple number ++ others
    else if rest ≠ [] then none
    else if third ≠ padding then
      (number? [first, second, third]).map fun number => (triple (number * 64)).take 2
    else (number? [first, second]).map fun number => (triple (number * 4096)).take 1
  | _ => none

/-- The octets that a text denotes, if it has the form. -/
def decode? (text : Bytes) : Option Bytes :=
  groups? (text.filter fun octet => !isBlank octet)

example : decode? (Bytes.ofString "Zm9v\nYg==") = some (Bytes.ofString "foob") := by decide +kernel

example : decode? (Bytes.ofString "Zm9vYg=") = none := by decide +kernel

end ServiceHost.Tls.Base64
