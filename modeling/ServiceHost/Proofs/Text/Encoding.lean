import Mathlib.Tactic.IntervalCases
import ServiceHost.Text.Utf8

/-!
Encoding: the octets of a text read as the text again, so that no two texts have the same octets. A first octet
announces how many follow it and bounds the second one so that only characters with no shorter encoding are read.
-/

namespace ServiceHost.Text

variable {first value owed bits : Nat} {low high : UInt8} {rest : Bytes} {text other : List Char}

/-- An octet that goes on in a character with six bits. -/
def continuation (bits : Nat) : UInt8 :=
  UInt8.ofNat (bits % 64 + 128)

/-- Some bits lie in the range of an octet that goes on in a character. -/
structure Within (low high : UInt8) (bits : Nat) : Prop where
  lower : low.toNat ≤ bits % 64 + 128
  upper : bits % 64 + 128 ≤ high.toNat

theorem within_all (bits : Nat) : Within 0x80 0xBF bits where
  lower := Nat.le_add_left 128 _
  upper := by
    show bits % 64 + 128 ≤ 191
    omega

theorem toNat_continuation (bits : Nat) : (continuation bits).toNat = bits % 64 + 128 := by
  rw [continuation, UInt8.toNat_ofNat', Nat.mod_eq_of_lt (by omega)]

theorem Within.continuation (within : Within low high bits) :
    (low ≤ continuation bits && continuation bits ≤ high) = true := by
  rw [Bool.and_eq_true, decide_eq_true_eq, decide_eq_true_eq, UInt8.le_iff_toNat_le, UInt8.le_iff_toNat_le,
    toNat_continuation]
  exact ⟨within.lower, within.upper⟩

theorem extend_continuation (pending : Pending) (bits : Nat) :
    pending.extend (continuation bits) = ⟨pending.owed - 1, 0x80, 0xBF, pending.value * 64 + bits % 64⟩ := by
  have six : (continuation bits).toNat - 0x80 = bits % 64 := by
    rw [toNat_continuation]
    omega
  rw [Pending.extend, six]

/-- One more octet that does not end a character. -/
theorem readings_goesOn (within : Within low high bits) :
    readings (some ⟨owed + 2, low, high, value⟩) (continuation bits :: rest) =
      readings (some ⟨owed + 1, 0x80, 0xBF, value * 64 + bits % 64⟩) rest := by
  rw [readings, if_pos within.continuation, extend_continuation]
  rfl

/-- The octet that ends a character. -/
theorem readings_ends (within : Within low high bits) :
    readings (some ⟨1, low, high, value⟩) (continuation bits :: rest) =
      some (Char.ofNat (value * 64 + bits % 64)) :: readings none rest := by
  rw [readings, if_pos within.continuation, extend_continuation]
  rfl

/-- The octet of an ASCII character. -/
theorem readings_whole (ascii : first < 128) :
    readings none (UInt8.ofNat first :: rest) = some (Char.ofNat first) :: readings none rest := by
  have octet : (UInt8.ofNat first).toNat = first := by rw [UInt8.toNat_ofNat', Nat.mod_eq_of_lt (by omega)]
  have leads : lead (UInt8.ofNat first) = .whole (Char.ofNat first) := by rw [lead, octet, if_pos ascii]
  rw [readings, leads]

theorem readings_more {octet : UInt8} {pending : Pending} (leads : lead octet = .more pending) :
    readings none (octet :: rest) = readings (some pending) rest := by
  rw [readings, leads]

/-- What the first of two octets announces. -/
theorem lead_two (value : Nat) (above : 2 ≤ value) (below : value < 32) :
    lead (UInt8.ofNat (value + 192)) = .more ⟨1, 0x80, 0xBF, value⟩ := by
  interval_cases value <;> rfl

/-- What the first of three octets announces. -/
theorem lead_three (value : Nat) (below : value < 16) :
    lead (UInt8.ofNat (value + 224)) =
      .more ⟨2, if value = 0 then 0xA0 else 0x80, if value = 13 then 0x9F else 0xBF, value⟩ := by
  interval_cases value <;> rfl

/-- What the first of four octets announces. -/
theorem lead_four (value : Nat) (below : value < 5) :
    lead (UInt8.ofNat (value + 240)) =
      .more ⟨3, if value = 0 then 0x90 else 0x80, if value = 4 then 0x8F else 0xBF, value⟩ := by
  interval_cases value <;> rfl

/-- Three octets encode no character that two could, and no surrogate. -/
theorem within_three (above : 2047 < value) (valid : value < 0xD800 ∨ 0xDFFF < value) (below : value ≤ 65535) :
    Within (if value / 4096 % 16 = 0 then 0xA0 else 0x80) (if value / 4096 % 16 = 13 then 0x9F else 0xBF)
      (value / 64) where
  lower := by
    split
    · show 160 ≤ value / 64 % 64 + 128
      omega
    · exact (within_all _).lower
  upper := by
    split
    · show value / 64 % 64 + 128 ≤ 159
      omega
    · exact (within_all _).upper

/-- Four octets encode no character that three could, and none beyond the last one. -/
theorem within_four (above : 65535 < value) (below : value < 0x110000) :
    Within (if value / 262144 % 8 = 0 then 0x90 else 0x80) (if value / 262144 % 8 = 4 then 0x8F else 0xBF)
      (value / 4096) where
  lower := by
    split
    · show 144 ≤ value / 4096 % 64 + 128
      omega
    · exact (within_all _).lower
  upper := by
    split
    · show value / 4096 % 64 + 128 ≤ 143
      omega
    · exact (within_all _).upper

/-- The octets of a character read as this character. -/
theorem readings_encodeChar (c : Char) (rest : Bytes) :
    readings none (String.utf8EncodeChar c ++ rest) = some c :: readings none rest := by
  have valid : c.val.toNat < 0xD800 ∨ 0xDFFF < c.val.toNat ∧ c.val.toNat < 0x110000 := c.valid
  -- The bits of the octets are the digits of the code point.
  have whole {value : Nat} (same : value = c.val.toNat) : some (Char.ofNat value) :: readings none rest =
      some c :: readings none rest := by
    rw [same]
    exact congrArg (some · :: _) (Char.ofNat_toNat c)
  fun_cases String.utf8EncodeChar c with
  | case1 v one =>
    rw [List.singleton_append, readings_whole (by omega)]
    exact whole rfl
  | case2 v notOne two =>
    have leads := lead_two (v / 64 % 32) (by omega) (by omega)
    show readings none (_ :: continuation v :: rest) = _
    rw [readings_more leads, readings_ends (within_all _)]
    exact whole (by omega)
  | case3 v notOne notTwo three =>
    have leads := lead_three (v / 4096 % 16) (by omega)
    have second := within_three (by omega) (by omega) three
    show readings none (_ :: continuation (v / 64) :: continuation v :: rest) = _
    rw [readings_more leads, readings_goesOn second, readings_ends (within_all _)]
    exact whole (by omega)
  | case4 v notOne notTwo notThree =>
    have leads := lead_four (v / 262144 % 8) (by omega)
    have second := within_four (show 65535 < v by omega) (by omega)
    show readings none (_ :: continuation (v / 4096) :: continuation (v / 64) :: continuation v :: rest) = _
    rw [readings_more leads, readings_goesOn second, readings_goesOn (within_all _), readings_ends (within_all _)]
    exact whole (by omega)

theorem readings_encode (text : List Char) : readings none (encode text) = text.map some := by
  induction text with
  | nil => rfl
  | cons c text inductionHypothesis =>
    rw [encode, List.flatMap_cons, readings_encodeChar, List.map_cons, ← inductionHypothesis, encode]

/-- Decoding undoes encoding. -/
theorem decodeLenient_encode (text : List Char) : decodeLenient (encode text) = text := by
  rw [decodeLenient, readings_encode, List.map_map]
  exact List.map_id text

theorem decode?_encode (text : List Char) : decode? (encode text) = some text := by
  rw [decode?, readings_encode]
  induction text with
  | nil => rfl
  | cons c text inductionHypothesis => simp [inductionHypothesis]

end ServiceHost.Text

namespace ServiceHost

/-- The octets of a text encode this text. -/
theorem Bytes.toString?_ofString (text : String) : (Bytes.ofString text).toString? = some text := by
  rw [toString?, ofString, Text.decode?_encode, Option.map_some, String.ofList_toList]

end ServiceHost
