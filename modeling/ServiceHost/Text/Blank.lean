import ServiceHost.Text.Range

/-!
Blank characters, the `White_Space` property of Unicode, and what it takes to strip them from the ends
of a text.
-/

namespace ServiceHost.Text

/-- The ranges of the `White_Space` property, ascending. -/
def blankRanges : List Range :=
  [(0x9, 0xD), (0x20, 0x20), (0x85, 0x85), (0xA0, 0xA0), (0x1680, 0x1680), (0x2000, 0x200A),
    (0x2028, 0x2029), (0x202F, 0x202F), (0x205F, 0x205F), (0x3000, 0x3000)]

/-- A blank is a character of the `White_Space` property. -/
def isBlank (c : Char) : Bool :=
  within blankRanges c

/-- The text without the characters of a kind at its two ends. -/
def stripWhere (drop : Char → Bool) (text : List Char) : List Char :=
  ((text.dropWhile drop).reverse.dropWhile drop).reverse

/-- The text without the blanks at its two ends. -/
def strip (text : String) : String :=
  String.ofList (stripWhere isBlank text.toList)

end ServiceHost.Text
