import ServiceHost.Tls.Base64

/-!
Files of labelled sections. A section begins and ends with a line of its own that bears the label, and
holds octets in base 64. What stands outside of sections counts for nothing, and so does a section with an
unknown label.
-/

namespace ServiceHost.Tls.Pem

/-- A known kind of section. -/
inductive Kind where
  | certificate
  | rsaKey
  | key
  | ecKey
  /-- Something that is neither a certificate nor a private key. -/
  | other
  deriving DecidableEq, Repr

/-- The kind of a label. -/
def kind? (label : Bytes) : Option Kind :=
  match label.toStringLenient with
  | "CERTIFICATE" => some .certificate
  | "RSA PRIVATE KEY" => some .rsaKey
  | "PRIVATE KEY" => some .key
  | "EC PRIVATE KEY" => some .ecKey
  | "PUBLIC KEY" => some .other
  | "X509 CRL" => some .other
  | "CERTIFICATE REQUEST" => some .other
  | "ECHCONFIG" => some .other
  | _ => none

/-- Is a kind one of private keys? -/
def Kind.isKey : Kind → Bool
  | .rsaKey => true
  | .key => true
  | .ecKey => true
  | _ => false

/-- A section with its content. -/
structure Section where
  kind : Kind
  content : Bytes
  deriving DecidableEq, Repr

/-- What is wrong with a file. -/
inductive Fault where
  | illegalStart
  | missingEnd
  | notBase64
  deriving DecidableEq, Repr

/-- The wording of a fault. -/
def Fault.message : Fault → String
  | .illegalStart => "illegal section start"
  | .missingEnd => "section end missing"
  | .notBase64 => "content is not base64"

/-- The lines of a file, each with the character that ends it. -/
def lines (text : Bytes) : List Bytes :=
  let add (octet : UInt8) (lines : List Bytes) : List Bytes :=
    if octet == 10 || octet == 13 then [octet] :: lines
    else
      match lines with
      | [] => [[octet]]
      | line :: rest => (octet :: line) :: rest
  text.foldr add []

/-- How the line of a beginning starts. -/
def opening : Bytes := Bytes.ofString "-----BEGIN "

/-- A line that ends a section of this label starts so. -/
def closing (label : Bytes) : Bytes :=
  Bytes.ofString "-----END " ++ label ++ Bytes.ofString "-----"

/-- The label and the number of hyphens behind it, from a line that is read backwards. Blanks among
the hyphens count for nothing. -/
def splitLabel (hyphens : Nat) (label : Bytes) : Bytes → Nat × Bytes
  | [] => (hyphens, label)
  | 45 :: rest => splitLabel (hyphens + 1) rest rest
  | octet :: rest =>
    if octet == 10 || octet == 13 || octet == 32 then splitLabel hyphens label rest
    else (hyphens, label)

/-- The label in the rest of an opening line, which five hyphens follow. -/
def openingLabel? (rest : Bytes) : Option Bytes :=
  let (hyphens, label) := splitLabel 0 [] rest.reverse
  if hyphens = 5 then some label.reverse else none

/-- The sections of lines up to the first fault, within a section or outside of all. Content that was
gathered stays when another section begins before the end of the first. -/
def sectionsFrom (current : Option Bytes) (gathered : Bytes) : List Bytes → List (Except Fault Section)
  | [] => if current.isSome then [.error .missingEnd] else []
  | line :: rest =>
    if opening.isPrefixOf line then
      match openingLabel? (line.drop opening.length) with
      | none => [.error .illegalStart]
      | some label => sectionsFrom (some label) gathered rest
    else
      match current with
      | none => sectionsFrom none gathered rest
      | some label =>
        if (closing label).isPrefixOf line then
          match kind? label with
          | none => sectionsFrom none [] rest
          | some kind =>
            match Base64.decode? gathered with
            | none => [.error .notBase64]
            | some content => .ok ⟨kind, content⟩ :: sectionsFrom none [] rest
        else sectionsFrom (some label) (gathered ++ line) rest

/-- The sections of a file up to the first fault. -/
def sections (text : Bytes) : List (Except Fault Section) :=
  sectionsFrom none [] (lines text)

/-- The contents of all certificates of a file without faults. -/
def certificates (text : Bytes) : Except Fault (List Bytes) := do
  let sections ← (sections text).mapM id
  return (sections.filter fun part => part.kind = .certificate).map Section.content

/-- The first private key before any fault. -/
def privateKeyIn : List (Except Fault Section) → Except Fault (Option Section)
  | [] => .ok none
  | .error fault :: _ => .error fault
  | .ok part :: rest => if part.kind.isKey then .ok (some part) else privateKeyIn rest

/-- The first private key of a file. -/
def privateKey (text : Bytes) : Except Fault (Option Section) :=
  privateKeyIn (sections text)

end ServiceHost.Tls.Pem
