/-!
Tokens: the words of which methods and header names are made.
-/

namespace ServiceHost.Http

/-- A token character is an ASCII letter, a digit or one of fifteen marks. -/
def isTokenChar (c : Char) : Bool :=
  c.isAlphanum || "!#$%&'*+-.^_\x60|~".toList.contains c

/-- A token is a word of one or more token characters. -/
def isToken (word : List Char) : Bool :=
  !word.isEmpty && word.all isTokenChar

theorem isTokenChar_ne_blank {c : Char} (token : isTokenChar c) :
    c ≠ ' ' ∧ c ≠ '\r' ∧ c ≠ '\n' ∧ c ≠ ':' := by
  refine ⟨?_, ?_, ?_, ?_⟩ <;> rintro rfl <;> revert token <;> decide

end ServiceHost.Http
