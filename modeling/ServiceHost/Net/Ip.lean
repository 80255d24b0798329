import ServiceHost.Text.Decimal
import ServiceHost.Text.Hexadecimal
import ServiceHost.Text.Pieces

/-!
Internet addresses in their textual forms. An IPv4 address is four decimal octets without leading zeros.
An IPv6 address is eight groups of one to four hexadecimal digits; one double colon may stand for one or
more groups of zeros, and a dotted IPv4 address may stand for the last two groups.
-/

namespace ServiceHost.Net

/-- A number below a bound in ASCII digits, leading zeros allowed. -/
def number? (bound : Nat) (text : List Char) : Option Nat :=
  if text.isEmpty then none
  else
    match Text.readDigits bound 0 text with
    | .ok value => some value
    | .error _ => none

/-- A decimal octet has no leading zero and is below 256. -/
def octet? (text : List Char) : Option Nat :=
  match text with
  | '0' :: _ :: _ => none
  | digits => number? 256 digits

/-- An IPv4 address. -/
structure Ipv4 where
  first : Nat
  second : Nat
  third : Nat
  fourth : Nat
  deriving DecidableEq, Repr

/-- The IPv4 address that a text denotes. -/
def Ipv4.ofChars? (text : List Char) : Option Ipv4 :=
  match (Text.pieces '.' text).mapM octet? with
  | some [first, second, third, fourth] => some ⟨first, second, third, fourth⟩
  | _ => none

/-- Does the address lead a machine to itself? -/
def Ipv4.isLoopback (address : Ipv4) : Bool := address.first == 127

/-- Does the address mean all interfaces of a machine? -/
def Ipv4.isUnspecified (address : Ipv4) : Bool := address == ⟨0, 0, 0, 0⟩

def Ipv4.render (address : Ipv4) : String :=
  ".".intercalate ([address.first, address.second, address.third, address.fourth].map toString)

/-- A group of an IPv6 address. -/
def group? (text : List Char) : Option Nat :=
  if text.isEmpty || 4 < text.length then none
  else (text.mapM Text.hexValue?).map (·.foldl (fun value digit => value * 16 + digit) 0)

/-- The groups between single colons. A dotted address may stand for the last two where it is allowed. -/
def groups? (dotted : Bool) : List (List Char) → Option (List Nat)
  | [] => some []
  | [last] =>
    match group? last with
    | some value => some [value]
    | none =>
      if dotted then
        (Ipv4.ofChars? last).map fun address =>
          [address.first * 256 + address.second, address.third * 256 + address.fourth]
      else none
  | piece :: rest => do
    let value ← group? piece
    let others ← groups? dotted rest
    return value :: others

/-- The groups of a text on one side of a double colon, which may be empty. -/
def side? (dotted : Bool) (text : List Char) : Option (List Nat) :=
  if text.isEmpty then some [] else groups? dotted (Text.pieces ':' text)

/-- The texts before and after the first double colon. -/
def splitDouble : List Char → Option (List Char × List Char)
  | [] => none
  | ':' :: ':' :: rest => some ([], rest)
  | c :: rest => (splitDouble rest).map fun (before, after) => (c :: before, after)

/-- An IPv6 address. -/
structure Ipv6 where
  groups : List Nat
  eight : groups.length = 8
  deriving DecidableEq, Repr

namespace Ipv6

/-- The address of eight groups. -/
def ofGroups? (groups : List Nat) : Option Ipv6 :=
  if eight : groups.length = 8 then some ⟨groups, eight⟩ else none

/-- The IPv6 address that a text denotes. -/
def ofChars? (text : List Char) : Option Ipv6 :=
  match splitDouble text with
  | none => (groups? true (Text.pieces ':' text)).bind ofGroups?
  | some (before, after) => do
    let head ← side? false before
    let tail ← side? true after
    if head.length + tail.length ≤ 7 then
      ofGroups? (head ++ List.replicate (8 - (head.length + tail.length)) 0 ++ tail)
    else none

/-- Does the address lead a machine to itself? -/
def isLoopback (address : Ipv6) : Bool := address.groups == [0, 0, 0, 0, 0, 0, 0, 1]

/-- Does the address mean all interfaces of a machine? -/
def isUnspecified (address : Ipv6) : Bool := address.groups == [0, 0, 0, 0, 0, 0, 0, 0]

/-- The IPv4 address that an address embeds. -/
def embedded? (address : Ipv6) : Option Ipv4 :=
  match address.groups with
  | [0, 0, 0, 0, 0, 0xFFFF, high, low] => some ⟨high / 256, high % 256, low / 256, low % 256⟩
  | _ => none

/-- The hexadecimal groups between colons. -/
def renderGroups (groups : List Nat) : String :=
  ":".intercalate (groups.map fun value => String.ofList (Nat.toDigits 16 value))

/-- The start and the length of the first longest run of zeros. -/
def longestZeros (groups : List Nat) : Nat × Nat :=
  let runs := (List.range groups.length).map fun start =>
    (start, ((groups.drop start).takeWhile (· == 0)).length)
  runs.foldl (fun best run => if best.2 < run.2 then run else best) (0, 0)

/-- The canonical text of an address: the first longest run of two or more zero groups shrinks to a
double colon, and an address that embeds an IPv4 address shows it dotted. -/
def render (address : Ipv6) : String :=
  match address.embedded? with
  | some embedded => "::ffff:" ++ embedded.render
  | none =>
    let groups := address.groups
    let (start, length) := longestZeros groups
    if 1 < length then
      renderGroups (groups.take start) ++ "::" ++ renderGroups (groups.drop (start + length))
    else renderGroups groups

end Ipv6

end ServiceHost.Net
