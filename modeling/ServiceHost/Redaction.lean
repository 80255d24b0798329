import ServiceHost.Redaction.HeaderLine
import ServiceHost.Redaction.Member
import ServiceHost.Redaction.Parameter

/-!
Redaction of dumps. Header lines, members and parameters that carry secrets are masked, in this order,
each on the text that the one before it left.
-/

namespace ServiceHost.Redaction

/-- Masks everything that a pattern finds in a text. -/
def Pattern.run (pattern : Pattern) (text : List Char) : List Char :=
  pattern.mask none text

/-- The text with its secrets masked. -/
def redactChars (text : List Char) : List Char :=
  Parameter.pattern.run (Member.pattern.run (HeaderLine.pattern.run text))

/-- The dump with its secrets masked. -/
def redact (dump : String) : String :=
  String.ofList (redactChars dump.toList)

end ServiceHost.Redaction

namespace ServiceHost

/-- A function that masks secrets in a dump. -/
abbrev Redactor := String → String

/-- The redactor that leaves every dump as it is. -/
def Redactor.identity : Redactor := id

/-- The redactor that hides every dump as a whole. -/
def Redactor.stars : Redactor := fun _ => "***"

/-- The redactor that writes ASCII letters large. -/
def Redactor.upper : Redactor := fun dump => String.ofList (dump.toList.map Char.toUpper)

end ServiceHost
