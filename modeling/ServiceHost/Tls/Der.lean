import ServiceHost.Tls.Octets

/-!
Elements in distinguished encoding: a tag of one octet, a length below 65536 and as many octets. Main
statement: what is read of octets leaves fewer of them, so that elements can be read one after the other.
-/

namespace ServiceHost.Tls.Der

/-- An element with its tag and its content. -/
structure Element where
  tag : UInt8
  content : Bytes
  deriving DecidableEq, Repr

def flagTag : UInt8 := 1

def integerTag : UInt8 := 2

def bitStringTag : UInt8 := 3

def octetStringTag : UInt8 := 4

def identifierTag : UInt8 := 6

def sequenceTag : UInt8 := 48

/-- The tag of a part with a number that is itself an element. -/
def partTag (number : UInt8) : UInt8 := 160 + number

/-- The tag of a part with a number that is no element itself. -/
def plainPartTag (number : UInt8) : UInt8 := 128 + number

/-- The form of a length below 65536. -/
def writeLength (length : Nat) : Bytes :=
  if length < 128 then octets 1 length
  else if length < 256 then 129 :: octets 1 length
  else 130 :: octets 2 length

/-- The form of an element. -/
def write (element : Element) : Bytes :=
  element.tag :: writeLength element.content.length ++ element.content

/-- The length at the start of octets and the rest behind it. A length has no form but its own. -/
def readLength? (text : Bytes) : Option (Nat × Bytes) :=
  match text with
  | [] => none
  | first :: rest =>
    let length := if first < 128 then first.toNat else natural (rest.take (first.toNat - 128))
    let form := writeLength length
    if form.isPrefixOf text then some (length, text.drop form.length) else none

/-- The first element of octets and the rest behind it. No tag goes on in further octets. -/
def read? (text : Bytes) : Option (Element × Bytes) :=
  match text with
  | [] => none
  | tag :: rest =>
    match readLength? rest with
    | none => none
    | some (length, rest) =>
      if tag % 32 = 31 ∨ rest.length < length then none
      else some (⟨tag, rest.take length⟩, rest.drop length)

/-- The content of the first element, which has a tag, and the rest behind it. -/
def expect? (tag : UInt8) (text : Bytes) : Option (Bytes × Bytes) :=
  match read? text with
  | none => none
  | some (element, rest) => if element.tag = tag then some (element.content, rest) else none

/-- The content of the only element, which has a tag. -/
def only? (tag : UInt8) (text : Bytes) : Option Bytes :=
  match expect? tag text with
  | some (content, []) => some content
  | _ => none

theorem length_readLength? {text rest : Bytes} {length : Nat}
    (found : readLength? text = some (length, rest)) : rest.length ≤ text.length := by
  unfold readLength? at found
  split at found
  · simp at found
  · simp only [Option.ite_none_right_eq_some, Option.some.injEq, Prod.mk.injEq] at found
    obtain ⟨-, -, rfl⟩ := found
    simp

theorem length_read? {text rest : Bytes} {element : Element}
    (found : read? text = some (element, rest)) : rest.length < text.length := by
  unfold read? at found
  split at found
  · simp at found
  · split at found
    · simp at found
    · rename_i length
      have shorter := length_readLength? length
      simp only [Option.ite_none_left_eq_some, Option.some.injEq, Prod.mk.injEq] at found
      obtain ⟨-, -, rfl⟩ := found
      simp only [List.length_drop, List.length_cons]
      omega

theorem length_expect? {tag : UInt8} {text content rest : Bytes}
    (found : expect? tag text = some (content, rest)) : rest.length < text.length := by
  unfold expect? at found
  split at found
  · simp at found
  · simp only [Option.ite_none_right_eq_some, Option.some.injEq, Prod.mk.injEq] at found
    obtain ⟨-, -, rfl⟩ := found
    exact length_read? ‹_›

/-- The contents of elements, of which each has a tag. -/
def each? (tag : UInt8) (text : Bytes) : Option (List Bytes) :=
  if text.isEmpty then some []
  else
    match found : expect? tag text with
    | none => none
    | some (content, rest) =>
      have : rest.length < text.length := length_expect? found
      (each? tag rest).map (content :: ·)
termination_by text.length

/-- Has the content of an integer the shortest form of a natural number? -/
def isNatural (content : Bytes) : Bool :=
  match content with
  | [] => false
  | [only] => decide (only < 128)
  | first :: second :: _ => decide (first < 128) && (first != 0 || decide (128 ≤ second))

/-- The natural number at the start of octets and the rest behind it. -/
def readNatural? (text : Bytes) : Option (Nat × Bytes) :=
  match expect? integerTag text with
  | none => none
  | some (content, rest) => if isNatural content then some (natural content, rest) else none

/-- The form of a natural number. -/
def writeNatural (value : Nat) : Bytes :=
  write ⟨integerTag, octets (bitLength value / 8 + 1) value⟩

/-- A sequence of parts. -/
def sequenceOf (parts : List Bytes) : Bytes :=
  write ⟨sequenceTag, parts.flatten⟩

/-- A string of whole octets as a string of bits. -/
def bitString (content : Bytes) : Bytes :=
  write ⟨bitStringTag, 0 :: content⟩

/-- The whole octets of a string of bits. -/
def wholeOctets? (bits : Bytes) : Option Bytes :=
  match bits with
  | 0 :: content => some content
  | _ => none

example : read? (write ⟨sequenceTag, List.replicate 200 7⟩ ++ [1]) =
    some (⟨sequenceTag, List.replicate 200 7⟩, [1]) := by decide +kernel

example : readNatural? (writeNatural 32768 ++ [1]) = some (32768, [1]) := by decide +kernel

end ServiceHost.Tls.Der
