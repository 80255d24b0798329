/-!
UTF-8. Encoding is total; strict decoding refuses octets that encode nothing; lenient decoding puts one
replacement character for each maximal run of octets that starts an encoding without finishing it and
for each octet that starts none.
-/

namespace ServiceHost

/-- A sequence of octets. -/
abbrev Bytes := List UInt8

namespace Text

/-- The character that stands for octets that encode nothing. -/
def replacement : Char := '\uFFFD'

/-- The octets of a text. -/
def encode (text : List Char) : Bytes :=
  text.flatMap String.utf8EncodeChar

/-- A character of which some octets were read: the number of octets it still owes, the range in which
the next one must lie, and the value read so far. -/
structure Pending where
  owed : Nat
  low : UInt8
  high : UInt8
  value : Nat

/-- What one octet at the start of a character announces. -/
inductive Lead where
  | whole (c : Char)
  | more (pending : Pending)
  | stray

/-- The reading of an octet at which a character may start. Overlong forms, surrogates and values beyond
the last code point are excluded by the range of the second octet. -/
def lead (octet : UInt8) : Lead :=
  let value := octet.toNat
  if value < 0x80 then .whole (Char.ofNat value)
  else if value < 0xC2 then .stray
  else if value < 0xE0 then .more ⟨1, 0x80, 0xBF, value - 0xC0⟩
  else if value = 0xE0 then .more ⟨2, 0xA0, 0xBF, 0⟩
  else if value = 0xED then .more ⟨2, 0x80, 0x9F, 0xD⟩
  else if value < 0xF0 then .more ⟨2, 0x80, 0xBF, value - 0xE0⟩
  else if value = 0xF0 then .more ⟨3, 0x90, 0xBF, 0⟩
  else if value < 0xF4 then .more ⟨3, 0x80, 0xBF, value - 0xF0⟩
  else if value = 0xF4 then .more ⟨3, 0x80, 0x8F, 4⟩
  else .stray

/-- The value after one more octet of six bits. -/
def Pending.extend (pending : Pending) (octet : UInt8) : Pending :=
  ⟨pending.owed - 1, 0x80, 0xBF, pending.value * 64 + (octet.toNat - 0x80)⟩

/-- One reading: a character of the text, or a place where octets encode nothing. -/
abbrev Reading := Option Char

/-- The readings of octets of which a first part was read already. -/
def readings : Option Pending → Bytes → List Reading
  | none, [] => []
  | some _, [] => [none]
  | none, octet :: rest =>
    match lead octet with
    | .whole c => some c :: readings none rest
    | .more pending => readings (some pending) rest
    | .stray => none :: readings none rest
  | some pending, octet :: rest =>
    if pending.low ≤ octet && octet ≤ pending.high then
      let longer := pending.extend octet
      if longer.owed = 0 then some (Char.ofNat longer.value) :: readings none rest
      else readings (some longer) rest
    else
      match lead octet with
      | .whole c => none :: some c :: readings none rest
      | .more next => none :: readings (some next) rest
      | .stray => none :: none :: readings none rest

/-- The text of octets, if all of them encode something. -/
def decode? (octets : Bytes) : Option (List Char) :=
  (readings none octets).mapM id

/-- The text of octets, with a replacement character wherever they encode nothing. -/
def decodeLenient (octets : Bytes) : List Char :=
  (readings none octets).map (·.getD replacement)

end Text

/-- The octets of a text. -/
def Bytes.ofString (text : String) : Bytes :=
  Text.encode text.toList

/-- The text of octets, if they encode one. -/
def Bytes.toString? (octets : Bytes) : Option String :=
  (Text.decode? octets).map String.ofList

/-- The text of octets, with a replacement character wherever they encode nothing. -/
def Bytes.toStringLenient (octets : Bytes) : String :=
  String.ofList (Text.decodeLenient octets)

end ServiceHost
