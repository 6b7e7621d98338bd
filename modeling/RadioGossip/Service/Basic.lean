import RadioGossip.Frame.Scanner
import RadioGossip.Node.Binding
import RadioGossip.Station.Basic

/-!
# Stations on the air

A **service** is a station that runs: it listens for streams, dials its peers, reads frames from its
connections and empties the outboxes of the peers that have one. It owns no sockets. It is told what
happened — a stream was accepted, a dial succeeded, bytes came in, a connection was lost — and
answers with **effects**, the bytes to write and the connections to hang up, in order.

A service starts once, and once it is stopped it stays stopped.
-/

namespace RadioGossip

/-- A connection that a service reads from. -/
structure Connection where
  id : ConnectionId
  peer : PeerId
  scanner : Frame.Scanner
  deriving DecidableEq, Repr

/-- What a service wants done on its connections. -/
inductive Effect where
  | write (connection : ConnectionId) (wire : Bytes)
  | hangUp (connection : ConnectionId)
  deriving DecidableEq, Repr

/-- Why a service does not start. -/
inductive StartError where
  | alreadyStarted
  | shutDown
  /-- The station cannot listen. -/
  | link (cause : LinkError)
  deriving DecidableEq, Repr

/-- The refusal in words. -/
def StartError.message : StartError → String
  | alreadyStarted => "Node already started"
  | shutDown => "Node is shut down"
  | link cause => s!"Transport error: {cause.message}"

/-- A station that runs. -/
structure Service where
  station : Station
  connections : List Connection := []
  nextConnection : Nat := 1
  started : Bool := false
  stopped : Bool := false
  deriving DecidableEq, Repr

namespace Service

/-- A service that was not started yet. -/
def ofStation (station : Station) : Service := { station }

/-- The node of the station. -/
def node (service : Service) : Node := service.station.node

/-- The bound on a frame. -/
def bound (service : Service) : Nat := service.node.settings.link.maxFrameSize

/-- Starts, if the station can listen. -/
def start (service : Service) (listening : Except LinkError Unit) :
    Service × Except StartError Unit :=
  if service.stopped then (service, .error .shutDown)
  else if service.started then (service, .error .alreadyStarted)
  else
    match listening with
    | .ok () => ({ service with started := true }, .ok ())
    | .error cause => (service, .error (.link cause))

/-! ## Sending -/

/-- Sends the frames that wait for a peer, at most `most` of them, as far as it has a connection.
A frame beyond the bound is dropped. -/
def sendWaiting (bound : Nat) : (most : Nat) → Peer → Peer × List Effect
  | 0, peer => (peer, [])
  | most + 1, peer =>
    match peer.beginSend? with
    | none => (peer, [])
    | some (peer, connection, frame) =>
      match Frame.encode bound frame.data with
      | .ok wire =>
        let (peer, effects) := sendWaiting bound most (peer.finishSend connection (.ok ())).1
        (peer, .write connection wire :: effects)
      | .error cause => sendWaiting bound most (peer.finishSend connection (.error cause)).1

/-- Empties the outbox of every peer that has a connection. -/
def flush (service : Service) : Service × List Effect :=
  let sent := service.node.peers.map fun peer => sendWaiting service.bound peer.outbox.size peer
  let node := { service.node with peers := sent.map Prod.fst }
  ({ service with station.node := node }, sent.flatMap Prod.snd)

/-- Forgets connections that are to be hung up. -/
def hangUp (service : Service) (hungUp : List ConnectionId) : Service × List Effect :=
  ({ service with
      connections := service.connections.filter fun connection => !hungUp.contains connection.id },
    hungUp.map .hangUp)

/-! ## Connections -/

/-- Reads from one more connection. -/
def listen (service : Service) (id : ConnectionId) (peer : PeerId) : Service :=
  { service with
    connections := service.connections ++ [⟨id, peer, .new service.bound⟩]
    nextConnection := service.nextConnection + 1 }

/-- A connection was bound to a peer. If the peer took it, what waited for it goes out and the
handlers hear of it. -/
def attach (service : Service) (node : Node) (id : ConnectionId) (peer : PeerId)
    (hungUp : List ConnectionId) : Service × List Effect :=
  let service := { service with station.node := node }.listen id peer
  let (service, gone) := service.hangUp hungUp
  if hungUp.contains id then (service, gone)
  else
    let (service, waiting) := service.flush
    let (service, greeting) := { service with station := service.station.peerConnected peer }.flush
    (service, gone ++ waiting ++ greeting)

/-- A stream was accepted: its connection and the peer that it belongs to. -/
def accepted (service : Service) (remote : Endpoint) :
    Service × ConnectionId × PeerId × List Effect :=
  let id : ConnectionId := ⟨service.nextConnection⟩
  let (node, peer, hungUp) := service.node.accept remote id
  let (service, effects) := service.attach node id peer hungUp
  (service, id, peer, effects)

/-- The peers that want to be dialled now, which are the outbound ones without a connection. Their
dials are under way from here on. -/
def beginDials (service : Service) : Service × List (PeerId × PeerAddress) :=
  let begun := service.node.peers.map fun peer =>
    match peer.origin, peer.closed, peer.beginConnect with
    | .outbound address, false, some dialling => (dialling, [(peer.id, address)])
    | _, _, _ => (peer, [])
  let node := { service.node with peers := begun.map Prod.fst }
  ({ service with station.node := node }, begun.flatMap Prod.snd)

/-- A dial succeeded. -/
def dialled (service : Service) (peer : PeerId) : Service × ConnectionId × List Effect :=
  let id : ConnectionId := ⟨service.nextConnection⟩
  let (node, hungUp) := service.node.setConnection peer id
  let (service, effects) := service.attach node id peer hungUp
  (service, id, effects)

/-- A dial came to nothing. -/
def dialFailed (service : Service) (peer : PeerId) : Service :=
  { service with station.node := service.node.updatePeer peer Peer.dialFailed }

/-- Bytes came in on a connection. Every frame that they complete is processed. -/
def received (service : Service) (id : ConnectionId) (bytes : Bytes) : Service × List Effect :=
  match service.connections.find? fun connection => connection.id = id with
  | none => (service, [])
  | some connection =>
    let (scanner, frames) := connection.scanner.drain bytes
    let connections := service.connections.map fun other =>
      if other.id = id then { other with scanner } else other
    let station := frames.foldl (fun station frame => station.handle frame (some connection.peer))
      service.station
    { service with connections, station }.flush

/-- A connection was lost. -/
def lost (service : Service) (id : ConnectionId) : Service × List Effect :=
  match service.connections.find? fun connection => connection.id = id with
  | none => (service, [])
  | some connection =>
    let (node, hungUp) := service.node.connectionLost connection.peer id
    let (service, effects) := { service with station.node := node }.hangUp hungUp
    ({ service with
        connections := service.connections.filter fun other => other.id ≠ id }, effects)

/-- Closes one peer for good. -/
def closePeer (service : Service) (peer : PeerId) : Service × List Effect :=
  let (node, hungUp) := service.node.closePeer peer
  { service with station.node := node }.hangUp hungUp

/-- Stops for good: every peer is closed. -/
def shutdown (service : Service) : Service × List Effect :=
  let (node, hungUp) := service.node.closeAll
  { service with station.node := node, stopped := true }.hangUp hungUp

/-! ## What the station does -/

/-- Floods a message that starts here. -/
def spread (service : Service) (message : Message) :
    Service × Except SpreadError Unit × List Effect :=
  let (station, outcome) := service.station.spread message
  let (service, effects) := { service with station }.flush
  (service, outcome, effects)

/-- Puts a frame into the outbox of one peer. -/
def queue (service : Service) (peer : PeerId) (data : Bytes) : Service × List Effect :=
  { service with station.node := service.node.queue peer data }.flush

end Service

end RadioGossip
