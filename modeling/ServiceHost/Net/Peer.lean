import ServiceHost.Net.Ip

/-!
The remote end of a connection: an address with a port. An IPv6 address stands in brackets, with the
number of its scope behind a percent sign where it has one.
-/

namespace ServiceHost.Net

/-- The remote end of a connection. -/
inductive Peer where
  | v4 (address : Ipv4) (port : Nat)
  | v6 (address : Ipv6) (scope port : Nat)
  deriving DecidableEq, Repr

namespace Peer

/-- The peer of an address without brackets. -/
def readV4 (text : List Char) : Option Peer :=
  match Text.pieces ':' text with
  | [host, port] => do
    let address ← Ipv4.ofChars? host
    let port ← number? 65536 port
    return .v4 address port
  | _ => none

/-- The peer of an address whose opening bracket was read. -/
def readV6 (text : List Char) : Option Peer :=
  let inside := text.takeWhile (· != ']')
  match text.dropWhile (· != ']') with
  | ']' :: ':' :: port => do
    let port ← number? 65536 port
    match Text.pieces '%' inside with
    | [host] => return .v6 (← Ipv6.ofChars? host) 0 port
    | [host, scope] => return .v6 (← Ipv6.ofChars? host) (← number? (Text.twoTo 32) scope) port
    | _ => none
  | _ => none

/-- The peer that a text denotes. -/
def ofString? (text : String) : Option Peer :=
  match text.toList with
  | '[' :: rest => readV6 rest
  | host => readV4 host

/-- The text of a peer, its address in canonical form. -/
def render : Peer → String
  | .v4 address port => address.render ++ ":" ++ toString port
  | .v6 address scope port =>
    let suffix := if scope = 0 then "" else "%" ++ toString scope
    "[" ++ address.render ++ suffix ++ "]:" ++ toString port

end Peer

end ServiceHost.Net
