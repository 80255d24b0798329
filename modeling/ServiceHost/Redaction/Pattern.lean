/-!
Masking by patterns. A pattern is asked at every place of a text from left to right; where it finds
something, the masked form is written in its place and the search goes on behind it, so that what is found
never overlaps.
-/

namespace ServiceHost.Redaction

/-- What a pattern finds at a place: the masked form, and the number of characters that are covered
beyond the first one. -/
structure Found where
  masked : List Char
  beyond : Nat
  deriving DecidableEq, Repr

/-- A pattern looks at the character before a place, if there is one, and at the text from there on. -/
abbrev Pattern := Option Char → List Char → Option Found

/-- The text with everything masked that a pattern finds in it. -/
def Pattern.mask (pattern : Pattern) (previous : Option Char) (text : List Char) : List Char :=
  match text with
  | [] => []
  | c :: rest =>
    match pattern previous (c :: rest) with
    | none => c :: mask pattern (some c) rest
    | some found =>
      found.masked ++ mask pattern (c :: rest)[found.beyond]? (rest.drop found.beyond)
termination_by text.length
decreasing_by
  · simp
  · simp only [List.length_drop, List.length_cons]
    omega

@[simp] theorem Pattern.mask_nil (pattern : Pattern) (previous : Option Char) :
    pattern.mask previous [] = [] := by
  simp [mask]

theorem Pattern.mask_of_none {pattern : Pattern} {previous : Option Char} {c : Char}
    {rest : List Char} (nothing : pattern previous (c :: rest) = none) :
    pattern.mask previous (c :: rest) = c :: pattern.mask (some c) rest := by
  rw [mask]
  simp [nothing]

theorem Pattern.mask_of_some {pattern : Pattern} {previous : Option Char} {c : Char}
    {rest : List Char} {found : Found} (here : pattern previous (c :: rest) = some found) :
    pattern.mask previous (c :: rest) =
      found.masked ++ pattern.mask (c :: rest)[found.beyond]? (rest.drop found.beyond) := by
  rw [mask]
  simp [here]

/-- The text that stands in place of a masked value. -/
def mark : List Char := "[REDACTED]".toList

end ServiceHost.Redaction
