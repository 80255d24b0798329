/-!
Octets in hexadecimal digits, two for each octet.
-/

namespace ServiceHost.Text

/-- The two lower-case hexadecimal digits of an octet. -/
def hexOctet (octet : UInt8) : List Char :=
  [Nat.digitChar (octet.toNat / 16), Nat.digitChar (octet.toNat % 16)]

/-- The hexadecimal digits of octets. -/
def hexOctets (octets : List UInt8) : List Char :=
  octets.flatMap hexOctet

/-- The value of a hexadecimal digit of either case. -/
def hexValue? (c : Char) : Option Nat :=
  if c.isDigit then some (c.toNat - '0'.toNat)
  else if 'a' ≤ c && c ≤ 'f' then some (c.toNat - 'a'.toNat + 10)
  else if 'A' ≤ c && c ≤ 'F' then some (c.toNat - 'A'.toNat + 10)
  else none

/-- The octets of hexadecimal digits, if there are two digits for each. -/
def readHexOctets? : List Char → Option (List UInt8)
  | [] => some []
  | high :: low :: rest => do
    let high ← hexValue? high
    let low ← hexValue? low
    let others ← readHexOctets? rest
    return UInt8.ofNat (high * 16 + low) :: others
  | _ => none

end ServiceHost.Text
