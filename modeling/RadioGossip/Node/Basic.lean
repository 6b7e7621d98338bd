import RadioGossip.Flood.Engine
import RadioGossip.Link.Settings
import RadioGossip.Peer.Basic

/-!
# Nodes

A **node** joins an engine to the peers of a station. It carries out what the engine decides: a
relay goes to every peer, also to the one the message came from, a reply only to the peer it came
from, and what is to be delivered is handed back to the caller as a list of deliveries.

A node numbers its peers, and it numbers its own messages with a counter that starts at the clock.
-/

namespace RadioGossip

/-- How a node runs. -/
structure NodeSettings where
  bindAddress : String := "0.0.0.0"
  port : UInt16 := 7000
  /-- The neighbours to dial. -/
  peers : List PeerAddress := []
  /-- Frames that may wait for one peer. -/
  queueSize : Nat := 100
  /-- Sends in a row that may fail before a connection is given up. -/
  retries : Nat := 3
  /-- Seconds between two dials of a peer without connection. -/
  reconnectInterval : Nat := 10
  link : LinkSettings := {}
  /-- Messages that the cache holds. -/
  cacheSize : Nat := 1000
  /-- Whether the node refuses to spread messages of its own. -/
  readOnly : Bool := false
  deriving DecidableEq, Repr

/-- A message for the station itself, and the peer that it came from, if it came from one. -/
structure Delivery where
  message : Message
  sender : Option PeerId
  deriving DecidableEq, Repr

/-- An engine with its peers. -/
structure Node where
  settings : NodeSettings
  engine : Engine
  peers : List Peer := []
  nextPeer : Nat := 1
  nextSequence : UInt64
  deriving DecidableEq, Repr

namespace Node

/-! ## Peers -/

/-- Makes a peer with the next number and puts it at the end of the list. -/
def addPeer (node : Node) (origin : Origin) : Node × PeerId :=
  let id : PeerId := ⟨node.nextPeer⟩
  let peer := Peer.new id origin node.settings.queueSize node.settings.retries
  ({ node with peers := node.peers ++ [peer], nextPeer := node.nextPeer + 1 }, id)

/-- A node with the outbound peers of its settings. Its first message gets the number `clock`. -/
def new (self : Contact) (settings : NodeSettings) (clock : UInt64) : Node :=
  let node : Node := {
    settings
    engine := .new self settings.cacheSize settings.readOnly
    nextSequence := clock }
  settings.peers.foldl (fun node address => (node.addPeer (.outbound address)).1) node

/-- The peers that a node is made with are numbered from the next number on. -/
theorem peers_foldl_addPeer (node : Node) (addresses : List PeerAddress) :
    (addresses.foldl (fun node address => (node.addPeer (.outbound address)).1) node).peers =
      node.peers ++ addresses.mapIdx fun index address =>
        Peer.new ⟨node.nextPeer + index⟩ (.outbound address) node.settings.queueSize
          node.settings.retries := by
  induction addresses generalizing node with
  | nil => simp
  | cons address addresses ih =>
    rw [List.foldl_cons, ih, List.mapIdx_cons]
    simp [addPeer, Nat.add_assoc, Nat.add_comm 1]

theorem engine_foldl_addPeer (node : Node) (addresses : List PeerAddress) :
    (addresses.foldl (fun node address => (node.addPeer (.outbound address)).1) node).engine =
      node.engine := by
  induction addresses generalizing node with
  | nil => rfl
  | cons address addresses ih => exact ih (node.addPeer (.outbound address)).1

theorem peers_new (self : Contact) (settings : NodeSettings) (clock : UInt64) :
    (new self settings clock).peers = settings.peers.mapIdx fun index address =>
      Peer.new ⟨index + 1⟩ (.outbound address) settings.queueSize settings.retries := by
  rw [new, peers_foldl_addPeer, List.nil_append]
  simp only [Nat.add_comm]

theorem engine_new (self : Contact) (settings : NodeSettings) (clock : UInt64) :
    (new self settings clock).engine = Engine.new self settings.cacheSize settings.readOnly := by
  rw [new, engine_foldl_addPeer]

/-- The contact of the station. -/
def self (node : Node) : Contact := node.engine.self

/-- The peer with this number. -/
def peer? (node : Node) (id : PeerId) : Option Peer := node.peers.find? fun peer => peer.id = id

/-- Changes the peer with this number. -/
def updatePeer (node : Node) (id : PeerId) (change : Peer → Peer) : Node :=
  { node with peers := node.peers.map fun peer => if peer.id = id then change peer else peer }

/-- Puts a frame into the outbox of one peer, whatever it holds. -/
def queue (node : Node) (id : PeerId) (data : Bytes) : Node := node.updatePeer id (·.queue data)

/-- Puts a frame into the outbox of every peer. -/
def queueAll (node : Node) (data : Bytes) : Node :=
  { node with peers := node.peers.map (·.queue data) }

/-! ## Own messages -/

/-- Draws a number for a message of this station. -/
def drawSequence (node : Node) : Node × UInt64 :=
  ({ node with nextSequence := node.nextSequence + 1 }, node.nextSequence)

/-- A message from this station with a fresh number. -/
def newMessage (node : Node) (kind : PayloadKind) (payload : Bytes) (ttl : UInt8) :
    Node × Message :=
  let (node, sequence) := node.drawSequence
  (node, { Message.make node.self sequence kind payload with ttl })

/-! ## Flooding -/

/-- Carries out one decision of the engine. -/
def carryOut (sender : Option PeerId) (node : Node) : Event → Node × List Delivery
  | .deliver message => (node, [⟨message, sender⟩])
  | .relay wire => (node.queueAll wire, [])
  | .reply wire =>
    match sender with
    | some id => (node.queue id wire, [])
    | none => (node, [])

/-- Carries out what the engine decided, in order. -/
def carryOutAll (sender : Option PeerId) (node : Node) : List Event → Node × List Delivery
  | [] => (node, [])
  | event :: events =>
    let (node, now) := node.carryOut sender event
    let (node, later) := node.carryOutAll sender events
    (node, now ++ later)

/-- Floods a message that starts here. -/
def spread (node : Node) (message : Message) : Node × Except SpreadError (List Delivery) :=
  match node.engine.spread message with
  | (engine, .error cause) => ({ node with engine }, .error cause)
  | (engine, .ok events) =>
    let (node, deliveries) := { node with engine }.carryOutAll none events
    (node, .ok deliveries)

/-- Processes a frame, as it came from a peer. What is no message goes no further. -/
def handle (node : Node) (raw : Bytes) (sender : Option PeerId) : Node × List Delivery :=
  match node.engine.handle raw with
  | (engine, .error _) => ({ node with engine }, [])
  | (engine, .ok events) => { node with engine }.carryOutAll sender events

/-- Takes a message into the cache without delivering or relaying it. -/
def addToCache (node : Node) (message : Message) : Node × Bool :=
  let (engine, grown) := node.engine.addToCache message
  ({ node with engine }, grown)

/-- The messages in the cache, the oldest first. -/
def cached (node : Node) : List Message := node.engine.cache.entries

end Node

end RadioGossip
