import ServiceHost.Log.Timestamp
import ServiceHost.Text.Decimal

/-!
Identifiers of version 7: forty-eight bits of milliseconds, the version, twelve random bits, the variant
and sixty-two random bits, in lower-case hexadecimal digits of five groups.
-/

namespace ServiceHost.Text

/-- The lower-case hexadecimal digits of a number, padded with zeros to a width; higher digits are cut
off. -/
def hexPadded : (width value : Nat) → List Char
  | 0, _ => []
  | width + 1, value => hexPadded width (value / 16) ++ [Nat.digitChar (value % 16)]

@[simp] theorem length_hexPadded (width value : Nat) : (hexPadded width value).length = width := by
  induction width generalizing value with
  | zero => rfl
  | succ width inductionHypothesis => simp [hexPadded, inductionHypothesis]

/-- The identifier made at an instant from random bits. -/
def timedId (instant : Log.Timestamp) (random : Nat) : String :=
  let millis := (instant.nanos / 1000000).toNat % twoTo 48
  let high := random / twoTo 62 % twoTo 12
  let low := random % twoTo 62
  String.ofList
    (hexPadded 8 (millis / twoTo 16) ++ ['-'] ++ hexPadded 4 millis ++ ['-', '7'] ++ hexPadded 3 high ++
      ['-'] ++ hexPadded 4 (twoTo 15 + low / twoTo 48) ++ ['-'] ++ hexPadded 12 low)

example : timedId ⟨1700000000000000000⟩ 0 = "018bcfe5-6800-7000-8000-000000000000" := by decide +kernel

/-- The places of an identifier: a hexadecimal digit, the variant, or the character that stands there. -/
def timedIdShape : List Char :=
  "xxxxxxxx-xxxx-7xxx-vxxx-xxxxxxxxxxxx".toList

/-- May a character stand at a place of an identifier? -/
def fitsTimedId (place c : Char) : Bool :=
  let digit := c.isDigit || ('a' ≤ c && c ≤ 'f')
  match place with
  | 'x' => digit
  | 'v' => c == '8' || c == '9' || c == 'a' || c == 'b'
  | _ => c == place

/-- Is the text an identifier? -/
def isTimedId (text : List Char) : Bool :=
  text.length == timedIdShape.length && (timedIdShape.zip text).all fun (place, c) => fitsTimedId place c

example : isTimedId (timedId ⟨1700000000000000000⟩ 77).toList := by decide +kernel

/-- The text with every identifier replaced by its number in the order in which they first appear. Some
characters at the start are left out, and some identifiers were seen before. -/
def numberIds (skipped : Nat) (seen : List (List Char)) : List Char → List Char
  | [] => []
  | c :: rest =>
    if 0 < skipped then numberIds (skipped - 1) seen rest
    else
      let here := (c :: rest).take timedIdShape.length
      if isTimedId here then
        let seen := if here ∈ seen then seen else seen ++ [here]
        "<uuid".toList ++ Nat.toDigits 10 (seen.idxOf here + 1) ++
          '>' :: numberIds (timedIdShape.length - 1) seen rest
      else c :: numberIds 0 seen rest

end ServiceHost.Text
