import ServiceHost.Redaction.Name
import ServiceHost.Redaction.Pattern
import ServiceHost.Text.Blank
import ServiceHost.Text.Word

/-!
Parameters with a secret name, as in queries and forms. The name starts at a word boundary and the value
runs up to the next ampersand or blank.
-/

namespace ServiceHost.Redaction.Parameter

/-- A character of a parameter value. -/
def isValueChar (c : Char) : Bool :=
  c != '&' && !Text.isBlank c

/-- The parameter at the start of a text. -/
def find (text : List Char) : Option Found :=
  let name := text.takeWhile isNameChar
  match text.dropWhile isNameChar with
  | '=' :: rest =>
    if isSecretName name then
      some ⟨name ++ ['='] ++ mark, name.length + (rest.takeWhile isValueChar).length⟩
    else none
  | _ => none

/-- A parameter with a secret name. -/
def pattern : Pattern := fun previous text =>
  if Text.isBoundary previous text.head? then find text else none

end ServiceHost.Redaction.Parameter
