import RadioGossip.Ip.Text

/-!
# Addresses of neighbours

A station dials a neighbour by **host and port**; the host may be a name or an address. A stream
that was accepted comes from an **endpoint**, which is an address and a port. In words, whatever
contains colons stands in brackets before the port.
-/

namespace RadioGossip

/-- Host and port of a neighbour to dial. -/
structure PeerAddress where
  host : String
  port : UInt16
  deriving DecidableEq, Repr

namespace PeerAddress

/-- Host and port in words. -/
def text (address : PeerAddress) : String :=
  if address.host.toList.contains ':' then s!"[{address.host}]:{address.port}"
  else s!"{address.host}:{address.port}"

end PeerAddress

/-- Where an accepted stream comes from. -/
structure Endpoint where
  ip : IpAddress
  port : UInt16
  deriving DecidableEq, Repr

namespace Endpoint

/-- An endpoint in words. -/
def text (endpoint : Endpoint) : String :=
  match endpoint.ip with
  | .v4 .. => s!"{endpoint.ip.text}:{endpoint.port}"
  | .v6 .. => s!"[{endpoint.ip.text}]:{endpoint.port}"

end Endpoint

end RadioGossip
