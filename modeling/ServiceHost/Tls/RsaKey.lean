import ServiceHost.Tls.Der

/-!
Private keys whose modulus is the product of two primes, with what it takes to compute with each prime on
its own. The numbers of a key have to agree with each other.
-/

namespace ServiceHost.Tls

/-- A private key. Exponents are kept for the modulus and for each prime, and the coefficient is the
inverse of the second prime modulo the first. -/
structure RsaKey where
  modulus : Nat
  publicExponent : Nat
  privateExponent : Nat
  firstPrime : Nat
  secondPrime : Nat
  firstExponent : Nat
  secondExponent : Nat
  coefficient : Nat

namespace RsaKey

open Der

/-- Is a number odd? -/
def isOdd (number : Nat) : Bool := number % 2 == 1

/-- Is the public part of a usable size? The modulus fills at least 256 octets. -/
def isSized (key : RsaKey) : Bool :=
  let bits := bitLength key.modulus
  isOdd key.modulus && decide (2040 < bits) && decide (bits ≤ 4096) && isOdd key.publicExponent &&
    decide (65537 ≤ key.publicExponent) && decide (bitLength key.publicExponent ≤ 33)

/-- Is a number a possible prime of a modulus? It has half of its bits, and these fill whole words. -/
def fits (key : RsaKey) (prime : Nat) : Bool :=
  let half := (bitLength key.modulus + 1) / 2
  isOdd prime && bitLength prime == half && half % 512 == 0

/-- Do the numbers of the private part agree with those of the public part and with each other? -/
def isConsistent (key : RsaKey) : Bool :=
  key.fits key.firstPrime && key.fits key.secondPrime &&
    key.firstPrime * key.secondPrime % key.modulus == 0 &&
    isOdd key.privateExponent && decide (key.privateExponent < key.modulus) &&
    decide ((bitLength key.modulus + 1) / 2 < bitLength key.privateExponent) &&
    isOdd key.firstExponent && decide (key.firstExponent < key.firstPrime) &&
    isOdd key.secondExponent && decide (key.secondExponent < key.secondPrime) &&
    decide (key.coefficient < key.firstPrime) &&
    key.coefficient * key.secondPrime % key.firstPrime == 1

/-- The natural numbers in octets, as many as there are and nothing else. -/
def numbers? (count : Nat) (text : Bytes) : Option (List Nat) :=
  match count with
  | 0 => if text.isEmpty then some [] else none
  | count + 1 => do
    let (value, rest) ← readNatural? text
    let others ← numbers? count rest
    return value :: others

/-- The usable key in octets: a sequence of its numbers behind the number zero. -/
def ofBytes? (text : Bytes) : Option RsaKey := do
  match ← numbers? 9 (← only? sequenceTag text) with
  | [0, modulus, publicExponent, privateExponent, firstPrime, secondPrime, firstExponent,
      secondExponent, coefficient] =>
    let key : RsaKey := ⟨modulus, publicExponent, privateExponent, firstPrime, secondPrime,
      firstExponent, secondExponent, coefficient⟩
    if key.isSized && key.isConsistent then some key else none
  | _ => none

/-- The public part: a sequence of the modulus and the public exponent. -/
def publicKey (key : RsaKey) : Bytes :=
  sequenceOf [writeNatural key.modulus, writeNatural key.publicExponent]

end RsaKey

end ServiceHost.Tls
