import ServiceHost.Tls.Der

/-!
Certificates of version 3: what has to be well formed in one before its public key counts.
-/

namespace ServiceHost.Tls

open Der

/-- An extension of a certificate. A critical one must be understood. -/
structure Extension where
  identifier : Bytes
  critical : Bool
  value : Bytes
  deriving DecidableEq, Repr

/-- A certificate as far as it counts: the description of its public key, and its extensions. -/
structure Certificate where
  keyDescription : Bytes
  extensions : List Extension

namespace Extension

/-- The flag at the start of octets and the rest behind it. An absent one is not set. -/
def readFlag? (text : Bytes) : Option (Bool × Bytes) :=
  if text.head? = some flagTag then
    match expect? flagTag text with
    | some ([0], rest) => some (false, rest)
    | some ([255], rest) => some (true, rest)
    | _ => none
  else some (false, text)

/-- The extension of a content. -/
def ofContent? (content : Bytes) : Option Extension := do
  let (identifier, rest) ← expect? identifierTag content
  let (critical, rest) ← readFlag? rest
  let value ← only? octetStringTag rest
  return ⟨identifier, critical, value⟩

/-- The number of the extension for the usage of the key, which is a string of bits. -/
def keyUsage : UInt8 := 15

/-- The numbers of the extensions that are understood: usages, other names, constraints, and where
revocations are listed. -/
def understood : List UInt8 := [keyUsage, 17, 19, 30, 31, 37]

/-- The number of an extension that is understood. -/
def number? (extension : Extension) : Option UInt8 :=
  match extension.identifier with
  | [85, 29, number] => if understood.contains number then some number else none
  | _ => none

/-- Is the extension acceptable? One that is understood holds a sequence, apart from the usage of the
key, and one that is not understood is not critical. -/
def isAcceptable (extension : Extension) : Bool :=
  match extension.number? with
  | none => !extension.critical
  | some number => number == keyUsage || (only? sequenceTag extension.value).isSome

end Extension

namespace Certificate

/-- The extensions at the end of a certificate. There may be none. -/
def readExtensions? (text : Bytes) : Option (List Extension) := do
  if text.isEmpty then return []
  else
    let contents ← each? sequenceTag (← only? sequenceTag (← only? (partTag 3) text))
    contents.mapM Extension.ofContent?

/-- The part of a certificate that is signed, and the algorithm of the signature, which is made of whole
octets. -/
def splitSigned? (text : Bytes) : Option (Bytes × Bytes) := do
  let (signed, rest) ← expect? sequenceTag (← only? sequenceTag text)
  let (algorithm, rest) ← expect? sequenceTag rest
  let _ ← wholeOctets? (← only? bitStringTag rest)
  return (signed, algorithm)

/-- The certificate of a signed part. It tells the algorithm of the signature a second time, and behind
it issuer, validity and subject. -/
def ofSigned? (signed algorithm : Bytes) : Option Certificate := do
  let (version, rest) ← expect? (partTag 0) signed
  let (_, rest) ← expect? integerTag rest
  let (told, rest) ← expect? sequenceTag rest
  let (_, rest) ← expect? sequenceTag rest
  let (_, rest) ← expect? sequenceTag rest
  let (_, rest) ← expect? sequenceTag rest
  let (key, rest) ← expect? sequenceTag rest
  let extensions ← readExtensions? rest
  if version = writeNatural 2 ∧ told = algorithm then
    return ⟨write ⟨sequenceTag, key⟩, extensions⟩
  else none

/-- Are all extensions acceptable, and those that are understood given once? -/
def isAcceptable (certificate : Certificate) : Bool :=
  certificate.extensions.all Extension.isAcceptable &&
    decide (certificate.extensions.filterMap Extension.number?).Nodup

/-- The acceptable certificate in octets. -/
def ofBytes? (text : Bytes) : Option Certificate := do
  let (signed, algorithm) ← splitSigned? text
  let certificate ← ofSigned? signed algorithm
  if certificate.isAcceptable then return certificate else none

end Certificate

end ServiceHost.Tls
