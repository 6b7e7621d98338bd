import RadioGossip.Node.Basic

/-!
# Binding streams to peers

A stream that was dialled belongs to the peer it was dialled for. A stream that was **accepted**
belongs to the first inbound peer from the same address that has no connection; only if there is
none does a new inbound peer join. So no live connection is ever replaced by an accepted stream.

As with a single peer, every operation returns the connections that it hangs up.
-/

namespace RadioGossip

namespace Node

/-- Whether a peer waits for a stream from this address. -/
def isWaitingFor (ip : IpAddress) (peer : Peer) : Bool :=
  match peer.origin with
  | .inbound remote => remote.ip = ip && peer.state = .disconnected
  | .outbound _ => false

/-- The peer that an accepted stream belongs to, which may be a new one. -/
def bindInbound (node : Node) (remote : Endpoint) : Node × PeerId :=
  match node.peers.find? (isWaitingFor remote.ip) with
  | some peer => (node, peer.id)
  | none => node.addPeer (.inbound remote)

/-- Changes the peer with this number and collects what it hangs up. -/
def changePeer (node : Node) (id : PeerId) (change : Peer → Peer × List ConnectionId) :
    Node × List ConnectionId :=
  let changed := node.peers.map fun peer => if peer.id = id then change peer else (peer, [])
  ({ node with peers := changed.map Prod.fst }, changed.flatMap Prod.snd)

/-- Binds a connection to a peer. -/
def setConnection (node : Node) (id : PeerId) (connection : ConnectionId) :
    Node × List ConnectionId :=
  node.changePeer id (·.setConnection connection)

/-- Binds an accepted stream: the peer that it went to, and what was hung up. -/
def accept (node : Node) (remote : Endpoint) (connection : ConnectionId) :
    Node × PeerId × List ConnectionId :=
  let (node, id) := node.bindInbound remote
  let (node, hungUp) := node.setConnection id connection
  (node, id, hungUp)

/-- A connection of a peer was lost. -/
def connectionLost (node : Node) (id : PeerId) (connection : ConnectionId) :
    Node × List ConnectionId :=
  node.changePeer id (·.connectionLost connection)

/-- Closes one peer for good. -/
def closePeer (node : Node) (id : PeerId) : Node × List ConnectionId :=
  node.changePeer id Peer.close

/-- Closes every peer for good. -/
def closeAll (node : Node) : Node × List ConnectionId :=
  let closed := node.peers.map Peer.close
  ({ node with peers := closed.map Prod.fst }, closed.flatMap Prod.snd)

end Node

end RadioGossip
