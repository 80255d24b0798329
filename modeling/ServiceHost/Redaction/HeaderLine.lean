import ServiceHost.Redaction.Name
import ServiceHost.Redaction.Pattern

/-!
Header lines of secret headers. A line starts at the start of the text or behind a line feed; its value
runs up to the next line break.
-/

namespace ServiceHost.Redaction.HeaderLine

/-- Does a line start behind this character? -/
def startsLine (previous : Option Char) : Bool :=
  previous.all (· == '\n')

/-- A character of a header value. -/
def isValueChar (c : Char) : Bool :=
  c != '\r' && c != '\n'

/-- The line of one header at the start of a text. -/
def findNamed (text name : List Char) : Option Found :=
  let written := text.take name.length
  let after := text.drop name.length
  let gap := after.takeWhile isGap
  match after.dropWhile isGap with
  | ':' :: rest =>
    if Text.foldsTo written name then
      let value := rest.takeWhile isValueChar
      some ⟨written ++ [':', ' '] ++ mark, name.length + gap.length + value.length⟩
    else none
  | _ => none

/-- The line of a secret header. -/
def pattern : Pattern := fun previous text =>
  if startsLine previous then secretHeaders.findSome? (findNamed text) else none

end ServiceHost.Redaction.HeaderLine
