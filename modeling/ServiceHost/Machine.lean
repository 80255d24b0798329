import ServiceHost.Net.SocketAddress
import ServiceHost.Tls.Material

/-!
Machines: what the construction of a service asks of its surroundings. A TLS library judges certificates and
keys, and the machine binds listening sockets.
-/

namespace ServiceHost

/-- The surroundings of a construction. -/
structure Machine where
  library : Tls.Library
  /-- Binds an address beside those that are bound already. A failure has its reason. -/
  bind : List Net.SocketAddress → Net.SocketAddress → Except String Unit

namespace Machine

/-- A machine that some addresses belong to: it binds them unless they overlap with a bound one. -/
def owning (library : Tls.Library) (owns : Net.SocketAddress → Bool) : Machine where
  library
  bind bound address :=
    if !owns address then .error "cannot assign requested address"
    else if bound.any address.overlaps then .error "address in use"
    else .ok ()

/-- A machine without a network. It has the hosts that every machine has. -/
def offline : Machine := owning .standard Net.SocketAddress.isUniversal

end Machine

end ServiceHost
