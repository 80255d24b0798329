/-!
Folding of case towards ASCII. Two characters beyond ASCII fold to an ASCII letter: the Kelvin sign to
the letter k and the long s to the letter s.
-/

namespace ServiceHost.Text

/-- The lower-case form of a character as far as it is an ASCII letter. -/
def folded (c : Char) : Char :=
  if c.isUpper then c.toLower
  else if c = '\u212A' then 'k'
  else if c = '\u017F' then 's'
  else c

/-- Are the texts equal but for case? The second is in lower case. -/
def foldsTo (text lower : List Char) : Bool :=
  text.map folded == lower

/-- Are the texts equal but for the case of ASCII letters? -/
def sameAsciiCaseless (first second : String) : Bool :=
  first.toList.map Char.toLower == second.toList.map Char.toLower

end ServiceHost.Text
