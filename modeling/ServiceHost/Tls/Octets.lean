import ServiceHost.Text.Utf8

/-!
Natural numbers as octets, of which the highest comes first.
-/

namespace ServiceHost.Tls

/-- The number that octets denote. -/
def natural (octets : Bytes) : Nat :=
  octets.foldl (fun number octet => number * 256 + octet.toNat) 0

/-- The lowest octets of a number, as many as the width says. -/
def octets (width value : Nat) : Bytes :=
  match width with
  | 0 => []
  | width + 1 => octets width (value / 256) ++ [UInt8.ofNat (value % 256)]

/-- The number of binary digits of a number. -/
def bitLength (value : Nat) : Nat :=
  if value = 0 then 0 else Nat.log2 value + 1

end ServiceHost.Tls
