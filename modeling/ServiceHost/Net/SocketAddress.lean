import ServiceHost.Net.Ip
import ServiceHost.Text.Fold

/-!
Socket addresses: what listening sockets are bound to. An unspecified host stands for all interfaces of a
machine.
-/

namespace ServiceHost.Net

/-- What a listening socket is bound to. -/
structure SocketAddress where
  host : String
  port : Nat
  deriving DecidableEq, Repr

namespace SocketAddress

/-- Does the host lead a machine to itself? -/
def isLoopback (address : SocketAddress) : Bool :=
  Text.sameAsciiCaseless "localhost" address.host ||
    (Ipv4.ofChars? address.host.toList).any Ipv4.isLoopback ||
    (Ipv6.ofChars? address.host.toList).any Ipv6.isLoopback

/-- Does every machine have the host? It leads a machine to itself or means all its interfaces. -/
def isUniversal (address : SocketAddress) : Bool :=
  let own (host : Ipv4) := host.isLoopback || host.isUnspecified
  address.isLoopback || (Ipv4.ofChars? address.host.toList).any own ||
    (Ipv6.ofChars? address.host.toList).any fun host => host.isUnspecified || host.embedded?.any own

/-- Does the host stand for all interfaces, the one of another address among them? The unspecified host of
IPv6 takes IPv4 in, not the other way round. -/
def takesIn (one other : SocketAddress) : Bool :=
  (Ipv6.ofChars? one.host.toList).any Ipv6.isUnspecified ||
    ((Ipv4.ofChars? one.host.toList).any Ipv4.isUnspecified && (Ipv6.ofChars? other.host.toList).isNone)

/-- Would sockets of two addresses receive the same connections, as far as the texts of their hosts tell? -/
def overlaps (one other : SocketAddress) : Bool :=
  one.port == other.port && (one.host == other.host || one.takesIn other || other.takesIn one)

end SocketAddress

end ServiceHost.Net
