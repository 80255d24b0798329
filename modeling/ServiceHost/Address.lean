import ServiceHost.Net.SocketAddress
import ServiceHost.Text.Blank

/-!
Bind addresses: a host and a port with a colon between them. The host may be empty, which means all
interfaces, a name, an IPv4 address, or an IPv6 address in brackets.
-/

namespace ServiceHost

/-- Why a text is no bind address. -/
inductive AddressFault where
  | blank
  | missingPort
  | portNotNumeric
  | portOutOfRange
  | openBracket
  | invalidIpv6
  | unbracketedIpv6
  deriving DecidableEq, Repr

/-- The wording of a fault. -/
def AddressFault.message : AddressFault → String
  | .blank => "contains whitespace"
  | .missingPort => "missing port"
  | .portNotNumeric => "port is not numeric"
  | .portOutOfRange => "port must be in [1, 65535]"
  | .openBracket => "unterminated IPv6 bracket"
  | .invalidIpv6 => "invalid IPv6 address"
  | .unbracketedIpv6 => "IPv6 hosts must be bracketed"

/-- A bind address. The host of an IPv6 address is kept without its brackets. -/
structure Address where
  host : List Char
  port : Nat
  deriving DecidableEq, Repr

namespace Address

/-- The texts before and after the last occurrence of a character. -/
def splitLast (separator : Char) : List Char → Option (List Char × List Char)
  | [] => none
  | c :: rest =>
    match splitLast separator rest with
    | some (before, after) => some (c :: before, after)
    | none => if c = separator then some ([], rest) else none

/-- The port that digits denote. -/
def readPort (digits : List Char) : Except AddressFault Nat :=
  if digits.isEmpty || !digits.all Char.isDigit then .error .portNotNumeric
  else
    match Text.readDigits 65536 0 digits with
    | .ok 0 => .error .portOutOfRange
    | .ok port => .ok port
    | .error _ => .error .portOutOfRange

/-- The host that a text denotes. -/
def readHost (text : List Char) : Except AddressFault (List Char) :=
  match text with
  | '[' :: inside =>
    if inside.getLast? ≠ some ']' then .error .openBracket
    else if (Net.Ipv6.ofChars? inside.dropLast).isNone then .error .invalidIpv6
    else .ok inside.dropLast
  | host =>
    if host.any fun c => c == ':' || c == '[' || c == ']' then .error .unbracketedIpv6 else .ok host

/-- The address that a text denotes. Blanks are looked for first, then the port and then the host. -/
def ofChars (text : List Char) : Except AddressFault Address :=
  if text.any Text.isBlank then .error .blank
  else
    match splitLast ':' text with
    | none => .error .missingPort
    | some (before, after) => do
      let port ← readPort after
      let host ← readHost before
      return ⟨host, port⟩

/-- The address that a text denotes. -/
def ofString (text : String) : Except AddressFault Address :=
  ofChars text.toList

/-- The host to bind: an empty one means all IPv4 interfaces. -/
def bindHost (address : Address) : String :=
  if address.host.isEmpty then "0.0.0.0" else String.ofList address.host

/-- What the listening socket of an address is bound to. -/
def socketAddress (address : Address) : Net.SocketAddress := ⟨address.bindHost, address.port⟩

/-- The address of the socket: an IPv6 host stands in brackets. -/
def socketText (address : Address) : String :=
  let host := if ':' ∈ address.host then "[" ++ address.bindHost ++ "]" else address.bindHost
  host ++ ":" ++ toString address.port

theorem splitLast_eq_some {separator : Char} {text before after : List Char}
    (split : splitLast separator text = some (before, after)) :
    text = before ++ separator :: after ∧ separator ∉ after := by
  induction text generalizing before after with
  | nil => simp [splitLast] at split
  | cons c rest inductionHypothesis =>
    unfold splitLast at split
    cases later : splitLast separator rest with
    | some parts =>
      obtain ⟨head, tail⟩ := parts
      simp only [later, Option.some.injEq, Prod.mk.injEq] at split
      obtain ⟨rfl, rfl⟩ := split
      obtain ⟨rfl, absent⟩ := inductionHypothesis later
      exact ⟨by simp, absent⟩
    | none =>
      simp only [later] at split
      split at split
      · rename_i same
        simp only [Option.some.injEq, Prod.mk.injEq] at split
        obtain ⟨rfl, rfl⟩ := split
        subst same
        refine ⟨by simp, ?_⟩
        clear inductionHypothesis
        intro found
        induction rest with
        | nil => simp at found
        | cons d others innerHypothesis =>
          unfold splitLast at later
          split at later
          · simp at later
          · rename_i none
            split at later
            · simp at later
            · rename_i other
              rcases List.mem_cons.mp found with rfl | deeper
              · exact other rfl
              · exact innerHypothesis none deeper
      · simp at split

end Address

end ServiceHost
