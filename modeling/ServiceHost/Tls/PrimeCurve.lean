import ServiceHost.Tls.Modular
import ServiceHost.Tls.Octets

/-!
Elliptic curves over prime fields, where the square of the height is the cube of the place less three
times the place and more a constant. A private key on a curve is a number, and its public key is that
many copies of the generator.
-/

namespace ServiceHost.Tls

/-- A point of a curve in homogeneous coordinates: the place and the height are the first two divided by
the third, which is zero for the neutral point alone. -/
structure CurvePoint where
  x : Int
  y : Int
  z : Int
  deriving DecidableEq, Repr

/-- A curve over the field of a prime, with the order of its generator. The width is the number of octets
of a coordinate. -/
structure PrimeCurve where
  identifier : Bytes
  width : Nat
  prime : Nat
  constant : Nat
  order : Nat
  generator : CurvePoint

namespace PrimeCurve

/-- The sum of two points by a formula that holds for all of them, also for two equal ones. -/
def add (curve : PrimeCurve) (first second : CurvePoint) : CurvePoint :=
  let prime : Int := curve.prime
  let triple : Int := 3 * curve.constant
  let xx := first.x * second.x
  let yy := first.y * second.y
  let zz := first.z * second.z
  let xy := first.x * second.y + second.x * first.y
  let xz := first.x * second.z + second.x * first.z
  let yz := first.y * second.z + second.y * first.z
  let shift := (triple * zz - 3 * xz) % prime
  let slope := (triple * xz - 3 * xx - 9 * zz) % prime
  let tangent := (3 * xx - 3 * zz) % prime
  ⟨(xy * (yy - shift) - yz * slope) % prime,
    (tangent * slope + (yy + shift) * (yy - shift)) % prime,
    (yz * (yy + shift) + xy * tangent) % prime⟩

/-- The neutral point. -/
def neutral : CurvePoint := ⟨0, 1, 0⟩

/-- So many copies of the generator. -/
def multiple (curve : PrimeCurve) (count : Nat) : CurvePoint :=
  copies curve.add neutral curve.generator count

/-- A point as octets: the number four and then its place and its height. -/
def pointOctets (curve : PrimeCurve) (point : CurvePoint) : Bytes :=
  let inverse := inverseMod curve.prime point.z.toNat
  let coordinate (value : Int) : Bytes := octets curve.width (value.toNat * inverse % curve.prime)
  4 :: coordinate point.x ++ coordinate point.y

/-- The public key of a private key, which fills the width and is neither zero nor as large as the order. -/
def publicKey? (curve : PrimeCurve) (key : Bytes) : Option Bytes :=
  let number := natural key
  if key.length = curve.width ∧ 0 < number ∧ number < curve.order then
    some (curve.pointOctets (curve.multiple number))
  else none

/-- The curve over the field of 256 bits. -/
def over256 : PrimeCurve where
  identifier := [6, 8, 42, 134, 72, 206, 61, 3, 1, 7]
  width := 32
  prime := 0xFFFFFFFF00000001000000000000000000000000FFFFFFFFFFFFFFFFFFFFFFFF
  constant := 0x5AC635D8AA3A93E7B3EBBD55769886BC651D06B0CC53B0F63BCE3C3E27D2604B
  order := 0xFFFFFFFF00000000FFFFFFFFFFFFFFFFBCE6FAADA7179E84F3B9CAC2FC632551
  generator := ⟨0x6B17D1F2E12C4247F8BCE6E563A440F277037D812DEB33A0F4A13945D898C296,
    0x4FE342E2FE1A7F9B8EE7EB4A7C0F9E162BCE33576B315ECECBB6406837BF51F5, 1⟩

/-- The curve over the field of 384 bits. -/
def over384 : PrimeCurve where
  identifier := [6, 5, 43, 129, 4, 0, 34]
  width := 48
  prime := 0xFFFFFFFFFFFFFFFFFFFFFFFFFFFFFFFFFFFFFFFFFFFFFFFFFFFFFFFFFFFFFFFEFFFFFFFF0000000000000000FFFFFFFF
  constant := 0xB3312FA7E23EE7E4988E056BE3F82D19181D9C6EFE8141120314088F5013875AC656398D8A2ED19D2A85C8EDD3EC2AEF
  order := 0xFFFFFFFFFFFFFFFFFFFFFFFFFFFFFFFFFFFFFFFFFFFFFFFFC7634D81F4372DDF581A0DB248B0A77AECEC196ACCC52973
  generator := ⟨0xAA87CA22BE8B05378EB1C71EF320AD746E1D3B628BA79B9859F741E082542A385502F25DBF55296C3A545E3872760AB7,
    0x3617DE4A96262C6F5D9E98BF9292DC29F8F41DBD289A147CE9DA3113B5F0B8C00A60B1CE1D7E819D7A431D7C90EA0E5F, 1⟩

/-- The curves in use. -/
def all : List PrimeCurve := [over256, over384]

end PrimeCurve

end ServiceHost.Tls
