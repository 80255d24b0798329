import ServiceHost.Redaction.Name
import ServiceHost.Redaction.Pattern

/-!
Members of JSON objects with a secret name and a string value. The value runs up to the next double
quote.
-/

namespace ServiceHost.Redaction.Member

/-- The string value at the start of a text behind a colon, and the number of characters up to and with
its closing quote. -/
def valueLength? (text : List Char) : Option Nat :=
  let gap := text.takeWhile isGap
  match text.dropWhile isGap with
  | '"' :: rest =>
    if (rest.dropWhile (· != '"')).isEmpty then none
    else some (gap.length + (rest.takeWhile (· != '"')).length + 2)
  | _ => none

/-- The member at the start of a text. -/
def find (text : List Char) : Option Found :=
  match text with
  | '"' :: inside =>
    let name := inside.takeWhile isNameChar
    match inside.dropWhile isNameChar with
    | '"' :: behind =>
      let gap := behind.takeWhile isGap
      match behind.dropWhile isGap with
      | ':' :: rest =>
        if isSecretName name then
          (valueLength? rest).map fun length =>
            ⟨['"'] ++ name ++ ['"', ':', '"'] ++ mark ++ ['"'],
              name.length + 1 + gap.length + 1 + length⟩
        else none
      | _ => none
    | _ => none
  | _ => none

/-- A member with a secret name. -/
def pattern : Pattern := fun _ text => find text

end ServiceHost.Redaction.Member
