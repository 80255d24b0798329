/-!
Shutdown signals. A signal stands on a token; a token may stand below another, and it is cancelled as soon as
itself or one of those above it was cancelled. Nothing undoes a cancellation.
-/

namespace ServiceHost.Shutdown

/-- A token: the numbers of those above it, the nearest first, and whether it was cancelled itself. -/
structure Token where
  above : List Nat := []
  cancelled : Bool := false
  deriving DecidableEq, Repr, Inhabited

/-- All tokens by number. -/
structure Tokens where
  nodes : List Token := []
  deriving DecidableEq, Repr, Inhabited

namespace Tokens

/-- The tokens above a token. -/
def above (tokens : Tokens) (number : Nat) : List Nat :=
  (tokens.nodes[number]?.map Token.above).getD []

/-- A token with those above it. -/
def line (tokens : Tokens) (number : Nat) : List Nat := number :: tokens.above number

/-- Was a token cancelled itself? -/
def wasCancelled (tokens : Tokens) (number : Nat) : Bool := tokens.nodes[number]?.any Token.cancelled

/-- Was a token or one of those above it cancelled? -/
def isCancelled (tokens : Tokens) (number : Nat) : Bool := (tokens.line number).any tokens.wasCancelled

/-- The tokens with a new one below another, or below none. It gets the next number. -/
def make (tokens : Tokens) (parent : Option Nat) : Tokens :=
  ⟨tokens.nodes ++ [⟨(parent.map tokens.line).getD [], false⟩]⟩

/-- The number of the next token. -/
def next (tokens : Tokens) : Nat := tokens.nodes.length

/-- Cancels a token. -/
def cancel (tokens : Tokens) (number : Nat) : Tokens :=
  ⟨tokens.nodes.modify number fun token => { token with cancelled := true }⟩

end Tokens

end ServiceHost.Shutdown
