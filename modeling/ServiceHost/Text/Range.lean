/-!
Sets of characters given by ranges of code points, both ends included.
-/

namespace ServiceHost.Text

/-- The first and the last code point of a range. -/
abbrev Range := Nat × Nat

/-- A character is within ranges if one of them holds its code point. -/
def within (ranges : List Range) (c : Char) : Bool :=
  ranges.any fun range => range.1 ≤ c.toNat && c.toNat ≤ range.2

end ServiceHost.Text
