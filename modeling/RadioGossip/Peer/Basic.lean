import RadioGossip.Link.Address
import RadioGossip.Link.Error
import RadioGossip.Peer.Outbox
import RadioGossip.Text.Quoted

/-!
# Neighbours

A **peer** is one neighbour. It outlives any number of connections. An outbound peer is dialled
again whenever it has no connection; an inbound one waits until a stream from its address is
accepted. Between two connections the frames for it wait in its outbox.

Every operation returns, beside the peer, the connections that it hangs up.
-/

namespace RadioGossip

/-- The number of a peer within its node. Peers are numbered from one on as they are made, and fewer
than `2 ^ 64` of them need no more than 64 bits. -/
structure PeerId where
  number : Nat
  deriving DecidableEq, Repr

/-- The number of a peer in words. -/
def PeerId.text (id : PeerId) : String := s!"peer#{id.number}"

/-- A connection. No two have the same number. -/
structure ConnectionId where
  number : Nat
  deriving DecidableEq, Repr

/-- Which side made the first contact. -/
inductive Origin where
  /-- A neighbour that this station dials. -/
  | outbound (address : PeerAddress)
  /-- A neighbour that dialled this station. -/
  | inbound (remote : Endpoint)
  deriving DecidableEq, Repr

/-- How far a peer is. -/
inductive PeerState where
  /-- It can neither send nor hear. -/
  | disconnected
  /-- A dial is under way. -/
  | connecting
  /-- A connection is bound, and the outbox is emptied. -/
  | active
  deriving DecidableEq, Repr

/-- The state in words. -/
def PeerState.name : PeerState → String
  | disconnected => "disconnected"
  | connecting => "connecting"
  | active => "active"

/-- One neighbour. -/
structure Peer where
  id : PeerId
  origin : Origin
  outbox : Outbox
  /-- Sends in a row that may fail before the connection is given up. -/
  retryBudget : Nat
  state : PeerState := .disconnected
  /-- The connection that is bound. -/
  connection : Option ConnectionId := none
  /-- Sends in a row that failed, no more than the retry budget. -/
  failures : Nat := 0
  closed : Bool := false
  deriving DecidableEq, Repr

namespace Peer

/-- A peer without a connection. -/
def new (id : PeerId) (origin : Origin) (queueSize retryBudget : Nat) : Peer :=
  { id, origin, retryBudget, outbox := .empty queueSize }

/-- Whether the neighbour made the first contact. -/
def isInbound (peer : Peer) : Bool :=
  match peer.origin with
  | .inbound _ => true
  | .outbound _ => false

/-- The endpoint that an inbound peer was made for. -/
def remote? (peer : Peer) : Option Endpoint :=
  match peer.origin with
  | .inbound remote => some remote
  | .outbound _ => none

/-- Whether the outbox is emptied. -/
def isActive (peer : Peer) : Bool := peer.state = .active

/-- The peer in words. -/
def text (peer : Peer) : String :=
  match peer.origin with
  | .outbound address => s!"{peer.id.text} ({address.text})"
  | .inbound remote => s!"{peer.id.text} (inbound {remote.text})"

/-- The peer with all that an operator may want to know of it. -/
def inspect (peer : Peer) : String :=
  let origin := match peer.origin with
    | .outbound address =>
      s!"Outbound \x7b address: PeerAddress \x7b host: {Text.quoted address.host}, "
        ++ s!"port: {address.port} \x7d \x7d"
    | .inbound remote => s!"Inbound \x7b remote: {remote.text} \x7d"
  s!"Peer \x7b id: PeerId({peer.id.number}), origin: {origin}, "
    ++ s!"state: {peer.state.name.capitalize} \x7d"

/-- Puts a frame into the outbox. -/
def queue (peer : Peer) (data : Bytes) : Peer := { peer with outbox := peer.outbox.push data }

/-! ## Connections -/

/-- Begins to dial, which a peer does only while it has no connection and no dial under way. -/
def beginConnect (peer : Peer) : Option Peer :=
  if peer.state = .disconnected then some { peer with state := .connecting } else none

/-- A dial came to nothing. -/
def dialFailed (peer : Peer) : Peer :=
  if peer.state = .connecting then { peer with state := .disconnected } else peer

/-- Binds a new connection in place of the one there was. A closed peer hangs it up at once. -/
def setConnection (peer : Peer) (connection : ConnectionId) : Peer × List ConnectionId :=
  let replaced := peer.connection.toList
  if peer.closed then ({ peer with connection := none }, replaced ++ [connection])
  else ({ peer with state := .active, connection := some connection, failures := 0 }, replaced)

/-- A connection was lost. That means nothing unless it is the one that is bound. -/
def connectionLost (peer : Peer) (connection : ConnectionId) : Peer × List ConnectionId :=
  if peer.connection = some connection then
    ({ peer with state := .disconnected, connection := none }, [connection])
  else (peer, [])

/-- Closes the peer for good. -/
def close (peer : Peer) : Peer × List ConnectionId :=
  ({ peer with state := .disconnected, connection := none, closed := true }, peer.connection.toList)

/-! ## Sending -/

/-- Takes up the first frame of the outbox, if there is a connection to send it on. -/
def beginSend? (peer : Peer) : Option (Peer × ConnectionId × QueuedFrame) :=
  match peer.state, peer.connection, peer.outbox.begin? with
  | .active, some connection, some (outbox, frame) => some ({ peer with outbox }, connection, frame)
  | _, _, _ => none

/-- A send on a connection ended. A frame that was sent or is too large is done with. Any other
frame stays, and the connection is given up when it is closed, when trying again is no use, or when
too many sends in a row failed. -/
def finishSend (peer : Peer) (connection : ConnectionId) (outcome : Except LinkError Unit) :
    Peer × List ConnectionId :=
  match outcome with
  | .ok () => ({ peer with outbox := peer.outbox.complete, failures := 0 }, [])
  | .error (.frameTooLarge _ _) => ({ peer with outbox := peer.outbox.complete }, [])
  | .error cause =>
    let peer := { peer with outbox := peer.outbox.giveUp }
    if cause = .closed then peer.connectionLost connection
    else if cause.isRetryable then
      let failures := peer.failures + 1
      if failures ≤ peer.retryBudget then ({ peer with failures }, [])
      else
        let (peer, _) := { peer with failures := 0 }.connectionLost connection
        (peer, [connection])
    else
      let (peer, _) := peer.connectionLost connection
      (peer, [connection])

end Peer

end RadioGossip
