import ServiceHost.Config.Builder
import ServiceHost.Tls.Certificate
import ServiceHost.Tls.PrivateKey

/-!
The check of TLS material: a chain of certificates, and the private key whose public part the first of
them holds. What a certificate and a key look like, and whether they belong together, is for a TLS library
to say.
-/

namespace ServiceHost

/-- What is asked of a TLS library. It gives a reason where it refuses. -/
structure Tls.Library where
  /-- Reads the certificates of a file. -/
  certificates : Bytes → Except String (List Bytes)
  /-- Reads the first private key of a file. -/
  privateKey : Bytes → Except String (Option Tls.Pem.Section)
  /-- Accepts a chain of certificates with a key. -/
  accept : List Bytes → Tls.Pem.Section → Except String Unit

open Tls

/-- Checks the certificates first, then the key, and then whether they belong together. -/
def TlsMaterial.check (library : Library) (material : TlsMaterial) : Except String Unit :=
  match library.certificates material.certificate with
  | .error reason => .error ("unreadable certificate: " ++ reason)
  | .ok [] => .error "no certificate found"
  | .ok (certificate :: chain) =>
    match library.privateKey material.key with
    | .error reason => .error ("unreadable private key: " ++ reason)
    | .ok none => .error "no private key found"
    | .ok (some key) => library.accept (certificate :: chain) key

namespace Tls.Library

/-- Accepts a chain whose first certificate holds the public part of a key. Both have to be well-formed. -/
def acceptOwn (chain : List Bytes) (key : Pem.Section) : Except String Unit :=
  match PrivateKey.describe? key, chain.head?.bind Certificate.ofBytes? with
  | some own, some certificate =>
    if own = certificate.keyDescription then .ok () else .error "the key is not that of the certificate"
  | _, _ => .error "malformed certificate or key"

/-- The library that reads labelled sections and knows three kinds of keys. -/
def standard : Library where
  certificates file := (Pem.certificates file).mapError Pem.Fault.message
  privateKey file := (Pem.privateKey file).mapError Pem.Fault.message
  accept := acceptOwn

end Tls.Library

end ServiceHost
