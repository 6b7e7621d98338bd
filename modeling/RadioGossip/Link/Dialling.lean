import RadioGossip.Ip.Host
import RadioGossip.Link.Address
import RadioGossip.Link.Error
import RadioGossip.Text.Blank

/-!
# Dialling and listening

A neighbour is dialled by host and port. A host that holds nothing but white space is refused before
anything is looked up. A host that says its address is known; what it takes to look up other names
is left to whoever dials.

A node can listen on every address of four octets, also when it is embedded in eight groups, and on
the address `::`, which stands for all there are. No other address of eight groups is taken to be
one of this machine.
-/

namespace RadioGossip

/-- Whether a node can listen on an address. -/
def IpAddress.isListenable : IpAddress → Bool
  | v4 .. => true
  | v6 0 0 0 0 0 0 0 0 => true
  | v6 0 0 0 0 0 0xFFFF _ _ => true
  | v6 .. => false

namespace PeerAddress

/-- Refuses a host that holds nothing but white space. -/
def checkHost (address : PeerAddress) : Except LinkError Unit :=
  if Text.isBlank address.host then .error (.invalidAddress s!"empty host in {address.text}")
  else .ok ()

/-- Finds a host that says its address. -/
def resolve (address : PeerAddress) : Except LinkError IpAddress := do
  address.checkHost
  match IpAddress.ofHost? address.host with
  | some ip => .ok ip
  | none => .error (.invalidAddress s!"{address.text}: unknown host")

/-- Dials a neighbour that hears nothing or answers, as it may be. -/
def dial (address : PeerAddress) (answers : Bool) : Except LinkError Unit := do
  discard address.resolve
  if answers then .ok () else .error (.connectionFailed "connection refused")

/-- Listens on a host. -/
def listen (address : PeerAddress) : Except LinkError Unit :=
  match IpAddress.ofHost? address.host with
  | some ip =>
    if ip.isListenable then .ok ()
    else .error (.connectionFailed s!"bind {address.text}: not an address of this machine")
  | none => .error (.connectionFailed s!"bind {address.text}: unknown host")

end PeerAddress

end RadioGossip
