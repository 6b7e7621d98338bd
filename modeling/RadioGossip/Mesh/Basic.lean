import RadioGossip.Station.Basic

/-!
# Meshes

A **mesh** is a number of stations with links between them. A link joins a peer of one station to a
peer of another; what one of them queues for its peer comes to the other from the peer at the other
end. Frames that were taken from the outboxes are **in flight** until they are delivered, and they
may be delivered in any order. Two ways to run a mesh are given here:

* `step` delivers any one of the frames in flight;
* `round` delivers all that wait, station by station, peer by peer, the oldest first, and `pump`
  goes on with rounds until nothing moves.
-/

namespace RadioGossip

/-- One end of a link: a station and its peer. -/
structure LinkEnd where
  station : Nat
  peer : PeerId
  deriving DecidableEq, Repr

/-- A frame on its way. The peer of the target is the one that it comes from. -/
structure Flight where
  target : LinkEnd
  data : Bytes
  deriving DecidableEq, Repr

/-- Stations with links between them. -/
structure Mesh where
  stations : List Station
  links : List (LinkEnd × LinkEnd) := []
  inFlight : List Flight := []
  deriving DecidableEq, Repr

namespace Mesh

/-! ## Links -/

/-- Changes one station. -/
def updateStation (mesh : Mesh) (index : Nat) (change : Station → Station) : Mesh :=
  { mesh with stations := mesh.stations.modify index change }

/-- Gives a station a peer for the station with this callsign. -/
def addPeer (mesh : Mesh) (index : Nat) (callsign : String) : Mesh × LinkEnd :=
  match mesh.stations[index]? with
  | none => (mesh, ⟨index, ⟨0⟩⟩)
  | some station =>
    let (node, peer) := station.node.addPeer (.outbound ⟨callsign, 7000⟩)
    (mesh.updateStation index fun station => { station with node }, ⟨index, peer⟩)

/-- The callsign of a station. -/
def callsign (mesh : Mesh) (index : Nat) : String :=
  (mesh.stations[index]?.map fun station => station.node.engine.callsign).getD ""

/-- Joins two stations by a link. -/
def join (mesh : Mesh) (a b : Nat) : Mesh :=
  let (mesh, here) := mesh.addPeer a (mesh.callsign b)
  let (mesh, there) := mesh.addPeer b (mesh.callsign a)
  { mesh with links := mesh.links ++ [(here, there)] }

/-- Stations and the links between them. -/
def ofStations (stations : List Station) (links : List (Nat × Nat)) : Mesh :=
  links.foldl (fun mesh link => mesh.join link.1 link.2) { stations }

/-- The other end of a link. -/
def otherEnd? (mesh : Mesh) (here : LinkEnd) : Option LinkEnd :=
  mesh.links.findSome? fun (a, b) =>
    if a = here then some b else if b = here then some a else none

/-- The first peer of a station that leads to another station. -/
def peerTowards? (mesh : Mesh) (here there : Nat) : Option PeerId :=
  mesh.links.findSome? fun (a, b) =>
    if a.station = here ∧ b.station = there then some a.peer
    else if b.station = here ∧ a.station = there then some b.peer
    else none

/-! ## Frames in flight -/

/-- Takes the frames that a peer holds for the other end of its link. -/
def takeFrom (mesh : Mesh) (station : Nat) (peer : Peer) : Peer × List Flight :=
  match mesh.otherEnd? ⟨station, peer.id⟩ with
  | none => (peer, [])
  | some target =>
    let (outbox, frames) := peer.outbox.takeAll
    ({ peer with outbox }, frames.map fun data => ⟨target, data⟩)

/-- Takes the frames that the peers of a station hold. -/
def takeFromStation (mesh : Mesh) (index : Nat) (station : Station) : Station × List Flight :=
  let taken := station.node.peers.map (mesh.takeFrom index)
  let node := { station.node with peers := taken.map Prod.fst }
  ({ station with node }, taken.flatMap Prod.snd)

/-- Puts every queued frame in flight, station by station, peer by peer, the oldest first. -/
def launch (mesh : Mesh) : Mesh :=
  let taken := mesh.stations.mapIdx mesh.takeFromStation
  { mesh with
    stations := taken.map Prod.fst
    inFlight := mesh.inFlight ++ taken.flatMap Prod.snd }

/-- Hands a frame to the station it is for. -/
def deliver (mesh : Mesh) (flight : Flight) : Mesh :=
  mesh.updateStation flight.target.station (·.handle flight.data (some flight.target.peer))

/-- Delivers the frame in flight with this index, and puts what it led to in flight. -/
def step (mesh : Mesh) (index : Nat) : Mesh :=
  match mesh.inFlight[index]? with
  | none => mesh
  | some flight => ({ mesh with inFlight := mesh.inFlight.eraseIdx index }.deliver flight).launch

/-- Delivers everything that waits and says how many frames that were. -/
def round (mesh : Mesh) : Mesh × Nat :=
  let mesh := mesh.launch
  let flights := mesh.inFlight
  (flights.foldl deliver { mesh with inFlight := [] }, flights.length)

/-- At most `rounds` rounds, until one carries nothing, and how many frames each of them carried. -/
def pump (mesh : Mesh) : (rounds : Nat) → Mesh × List Nat
  | 0 => (mesh, [])
  | rounds + 1 =>
    let (mesh, carried) := mesh.round
    if carried = 0 then (mesh, [])
    else
      let (mesh, later) := mesh.pump rounds
      (mesh, carried :: later)

/-! ## What stations do -/

/-- Floods a message that starts at one station. -/
def spread (mesh : Mesh) (index : Nat) (message : Message) : Mesh × Except SpreadError Unit :=
  match mesh.stations[index]? with
  | none => (mesh, .ok ())
  | some station =>
    let (station, outcome) := station.spread message
    ({ mesh with stations := mesh.stations.set index station }, outcome)

/-- Takes a message into the cache of one station. -/
def addToCache (mesh : Mesh) (index : Nat) (message : Message) : Mesh × Bool :=
  match mesh.stations[index]? with
  | none => (mesh, false)
  | some station =>
    let (station, grown) := station.addToCache message
    ({ mesh with stations := mesh.stations.set index station }, grown)

/-- A peer of one station connects. -/
def peerConnected (mesh : Mesh) (here there : Nat) : Mesh :=
  match mesh.peerTowards? here there with
  | none => mesh
  | some peer => mesh.updateStation here (·.peerConnected peer)

/-- Two stations connect: each of them hears of the other, the first one first. -/
def connect (mesh : Mesh) (a b : Nat) : Mesh := (mesh.peerConnected a b).peerConnected b a

end Mesh

end RadioGossip
