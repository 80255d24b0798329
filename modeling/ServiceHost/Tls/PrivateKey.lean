import ServiceHost.Tls.TwistedCurve
import ServiceHost.Tls.Pem
import ServiceHost.Tls.PrimeCurve
import ServiceHost.Tls.RsaKey

/-!
Private keys of three kinds: products of primes, numbers on a curve over a prime field, and seeds on the
twisted curve. Each yields the description of its public key as a certificate holds it, and a
public key that stands beside a private one has to be its own.
-/

namespace ServiceHost.Tls.PrivateKey

open Der

/-- The algorithm of products of primes. -/
def rsaAlgorithm : Bytes := [6, 9, 42, 134, 72, 134, 247, 13, 1, 1, 1, 5, 0]

/-- The algorithm of numbers on a curve. -/
def curveAlgorithm (curve : PrimeCurve) : Bytes :=
  [6, 7, 42, 134, 72, 206, 61, 2, 1] ++ curve.identifier

/-- The algorithm of seeds on the twisted curve. -/
def twistedAlgorithm : Bytes := [6, 3, 43, 101, 112]

/-- The description of a public key. -/
def describe (algorithm key : Bytes) : Bytes :=
  sequenceOf [write ⟨sequenceTag, algorithm⟩, bitString key]

/-- A key in the wrapping that names its algorithm. -/
structure Wrapped where
  version : Nat
  algorithm : Bytes
  key : Bytes
  rest : Bytes

/-- The wrapped key in octets. Attributes behind the key count for nothing. -/
def Wrapped.ofBytes? (text : Bytes) : Option Wrapped := do
  let (version, parts) ← readNatural? (← only? sequenceTag text)
  let (algorithm, parts) ← expect? sequenceTag parts
  let (key, parts) ← expect? octetStringTag parts
  if parts.head? = some (partTag 0) then
    let (_, rest) ← expect? (partTag 0) parts
    return ⟨version, algorithm, key, rest⟩
  else return ⟨version, algorithm, key, parts⟩

/-- The key of an algorithm in the wrapping of version zero, behind which nothing stands. -/
def Wrapped.plain? (wrapped : Wrapped) (algorithm : Bytes) : Option Bytes :=
  if wrapped.version = 0 ∧ wrapped.algorithm = algorithm ∧ wrapped.rest = [] then some wrapped.key
  else none

/-- The description of the public key of a product of primes. -/
def describeRsa? (text : Bytes) : Option Bytes :=
  (RsaKey.ofBytes? text).map fun key => describe rsaAlgorithm key.publicKey

/-- The description of the public key of a number on a curve. Its public key stands behind it, and the
curve may stand between them. -/
def describeOn? (curve : PrimeCurve) (text : Bytes) : Option Bytes := do
  let (version, parts) ← readNatural? (← only? sequenceTag text)
  let (key, parts) ← expect? octetStringTag parts
  let (named, parts) ←
    if parts.head? = some (partTag 0) then expect? (partTag 0) parts
    else some (curve.identifier, parts)
  let stated ← wholeOctets? (← only? bitStringTag (← only? (partTag 1) parts))
  let own ← curve.publicKey? key
  if version = 1 ∧ named = curve.identifier ∧ stated = own then
    return describe (curveAlgorithm curve) own
  else none

/-- The public key behind a wrapped seed, as a part of either form. -/
def statedKey? (rest : Bytes) : Option Bytes := do
  if rest.head? = some (partTag 1) then wholeOctets? (← only? bitStringTag (← only? (partTag 1) rest))
  else wholeOctets? (← only? (plainPartTag 1) rest)

/-- The description of the public key of a wrapped seed. From version one on the public key stands
behind it. -/
def Wrapped.describeSeed? (wrapped : Wrapped) : Option Bytes := do
  let own ← TwistedCurve.publicKey? (← only? octetStringTag wrapped.key)
  let agrees :=
    if wrapped.version = 0 then wrapped.rest.isEmpty
    else wrapped.version == 1 && statedKey? wrapped.rest == some own
  if wrapped.algorithm = twistedAlgorithm ∧ agrees then return describe twistedAlgorithm own else none

/-- The description of the public key of a wrapped key. -/
def Wrapped.describe? (wrapped : Wrapped) : Option Bytes :=
  let onCurve (curve : PrimeCurve) : Option Bytes :=
    (wrapped.plain? (curveAlgorithm curve)).bind (describeOn? curve)
  ((wrapped.plain? rsaAlgorithm).bind describeRsa?).or
    ((PrimeCurve.all.findSome? onCurve).or wrapped.describeSeed?)

/-- The description of the public key of the private key in a section. -/
def describe? (key : Pem.Section) : Option Bytes :=
  match key.kind with
  | .key => (Wrapped.ofBytes? key.content).bind Wrapped.describe?
  | .ecKey => PrimeCurve.all.findSome? fun curve => describeOn? curve key.content
  | .rsaKey => describeRsa? key.content
  | _ => none

end ServiceHost.Tls.PrivateKey
