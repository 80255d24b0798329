import ServiceHost.Text.Fold

/-!
Names that tell that their value is secret. Case does not count in them.
-/

namespace ServiceHost.Redaction

/-- The headers whose values are secret. -/
def secretHeaders : List (List Char) :=
  ["authorization", "proxy-authorization", "cookie", "set-cookie", "x-api-key"].map String.toList

/-- The words with which the name of a secret ends. -/
def secretWords : List (List Char) :=
  ["password", "secret", "token", "key"].map String.toList

/-- A character of which names are made: a letter or an underscore. -/
def isNameChar (c : Char) : Bool :=
  let lower := Text.folded c
  lower.isLower || lower == '_'

/-- Does a run of name characters end with a secret word? -/
def isSecretName (run : List Char) : Bool :=
  secretWords.any fun word => Text.foldsTo (run.drop (run.length - word.length)) word

/-- A space or a tab. -/
def isGap (c : Char) : Bool :=
  c == ' ' || c == '\t'

end ServiceHost.Redaction
