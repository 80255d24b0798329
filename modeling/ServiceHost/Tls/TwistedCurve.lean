import ServiceHost.Tls.Digest
import ServiceHost.Tls.Modular

/-!
The twisted curve over the field of 255 bits, where the square of the height less that of the place is
one more than a constant times both squares. A private key is a seed of thirty-two octets; the first half
of its digest, with some bits fixed, tells how many copies of the base point make its public key.
-/

namespace ServiceHost.Tls.TwistedCurve

/-- The prime of the field. -/
def prime : Nat := Nat.pow 2 255 - 19

/-- The constant of the curve. -/
def constant : Int := 0x52036CEE2B6FFE738CC740797779E89800700A4D4141D8AB75EB4DCA135978A3

/-- A point in homogeneous coordinates: its place and its height are the first two divided by the third. -/
structure Point where
  x : Int
  y : Int
  z : Int
  deriving DecidableEq, Repr

/-- The base point, whose height is four fifths. -/
def base : Point :=
  ⟨0x216936D3CD6E53FEC0A4E231FDD6DC5C692CC7609525A7B2C9562D608F25D51A,
    0x6666666666666666666666666666666666666666666666666666666666666658, 1⟩

/-- The neutral point. -/
def neutral : Point := ⟨0, 1, 1⟩

/-- The sum of two points by a formula that holds for all of them. -/
def add (first second : Point) : Point :=
  let prime : Int := prime
  let scale := first.z * second.z % prime
  let square := scale * scale % prime
  let places := first.x * second.x % prime
  let heights := first.y * second.y % prime
  let product := constant * places * heights % prime
  let crossed := (first.x + first.y) * (second.x + second.y) - places - heights
  ⟨scale * (square - product) * crossed % prime,
    scale * (square + product) * (heights + places) % prime,
    (square - product) * (square + product) % prime⟩

/-- A point as octets, the lowest first: its height, with the lowest bit of its place as the highest. -/
def pointOctets (point : Point) : Bytes :=
  let inverse := inverseMod prime point.z.toNat
  let x := point.x.toNat * inverse % prime
  let y := point.y.toNat * inverse % prime
  (octets 32 (y + x % 2 * Nat.pow 2 255)).reverse

/-- The number of copies that a seed stands for: a multiple of eight of 255 bits. -/
def count (seed : Bytes) : Nat :=
  let number := natural ((Digest.digest seed).take 32).reverse
  Nat.pow 2 254 + number % Nat.pow 2 254 / 8 * 8

/-- The public key of a seed of thirty-two octets. -/
def publicKey? (seed : Bytes) : Option Bytes :=
  if seed.length = 32 then some (pointOctets (copies add neutral base (count seed))) else none

end ServiceHost.Tls.TwistedCurve
