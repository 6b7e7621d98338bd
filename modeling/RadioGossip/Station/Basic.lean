import RadioGossip.Reconciliation.Exchange

/-!
# Stations

A **station** is a node with the handlers that listen to it. A handler is registered under a number
and hears every delivery from then on until it is removed; several hear one delivery in the order of
their numbers. There are three kinds: an **observer** notes what it hears in the log, a **tally**
counts acknowledgements, and a **reconciler** keeps the cache in step with the peers. Others hear of
peers that connect.

Handlers run in a runtime. Outside of one they are skipped, and the node goes on without them.
-/

namespace RadioGossip

/-- The number under which a handler is registered. -/
structure CallbackId where
  number : Nat
  deriving DecidableEq, Repr

/-- The number of a handler in words. -/
def CallbackId.text (id : CallbackId) : String := s!"CallbackId({id.number})"

/-- A handler of deliveries. -/
inductive MessageHandler where
  /-- Notes every delivery in the log. -/
  | observer
  /-- Counts acknowledgements in the tally with this index. -/
  | tally (index : Nat)
  /-- Reconciles and counts in the statistics with this index. -/
  | reconciler (index : Nat)
  deriving DecidableEq, Repr

/-- A handler of new connections. -/
inductive ConnectHandler where
  /-- Takes no notice. -/
  | bystander
  /-- Sends a query and counts in the statistics with this index. -/
  | reconciler (index : Nat)
  deriving DecidableEq, Repr

/-- What an observer noted. -/
structure LogEntry where
  observer : CallbackId
  delivery : Delivery
  deriving DecidableEq, Repr

/-- A node with its handlers. -/
structure Station where
  node : Node
  messageHandlers : List (CallbackId × MessageHandler) := []
  connectHandlers : List (CallbackId × ConnectHandler) := []
  nextCallback : Nat := 1
  tallies : List AckTally := []
  reconcilers : List ReconcileStats := []
  /-- What the observers noted, the latest last. -/
  log : List LogEntry := []
  hasRuntime : Bool := true
  deriving DecidableEq, Repr

namespace Station

/-- A station without handlers. -/
def ofNode (node : Node) : Station := { node }

/-! ## Registering -/

/-- Registers a handler of deliveries. -/
def addMessageHandler (station : Station) (handler : MessageHandler) : Station × CallbackId :=
  let id : CallbackId := ⟨station.nextCallback⟩
  ({ station with
      messageHandlers := station.messageHandlers ++ [(id, handler)]
      nextCallback := station.nextCallback + 1 }, id)

/-- Registers a handler of new connections. -/
def addConnectHandler (station : Station) (handler : ConnectHandler) : Station × CallbackId :=
  let id : CallbackId := ⟨station.nextCallback⟩
  ({ station with
      connectHandlers := station.connectHandlers ++ [(id, handler)]
      nextCallback := station.nextCallback + 1 }, id)

/-- Removes a handler of deliveries and says whether there was one under this number. -/
def removeMessageHandler (station : Station) (id : CallbackId) : Station × Bool :=
  ({ station with messageHandlers := station.messageHandlers.filter fun entry => entry.1 ≠ id },
    station.messageHandlers.any fun entry => entry.1 = id)

/-- Removes a handler of new connections and says whether there was one under this number. -/
def removeConnectHandler (station : Station) (id : CallbackId) : Station × Bool :=
  ({ station with connectHandlers := station.connectHandlers.filter fun entry => entry.1 ≠ id },
    station.connectHandlers.any fun entry => entry.1 = id)

/-- Adds a tally that no handler counts in yet. -/
def addTally (station : Station) : Station × Nat :=
  ({ station with tallies := station.tallies ++ [{}] }, station.tallies.length)

/-- Adds reconciliation statistics that no handler counts in yet. -/
def addReconciler (station : Station) : Station × Nat :=
  ({ station with reconcilers := station.reconcilers ++ [{}] }, station.reconcilers.length)

/-- Registers an observer. -/
def registerObserver (station : Station) : Station × CallbackId :=
  station.addMessageHandler .observer

/-- Registers a tally of its own. -/
def registerTally (station : Station) : Station × Nat × CallbackId :=
  let (station, index) := station.addTally
  let (station, id) := station.addMessageHandler (.tally index)
  (station, index, id)

/-- Registers a reconciler for new connections and for deliveries, in this order. -/
def registerReconciler (station : Station) : Station × Nat × CallbackId × CallbackId :=
  let (station, index) := station.addReconciler
  let (station, connect) := station.addConnectHandler (.reconciler index)
  let (station, message) := station.addMessageHandler (.reconciler index)
  (station, index, connect, message)

/-! ## Running handlers -/

/-- Counts a delivery in one tally. -/
def countAck (station : Station) (index : Nat) (delivery : Delivery) : Station :=
  { station with
    tallies := station.tallies.modify index
      (·.observe delivery.message delivery.sender.isSome) }

/-- Has one reconciler take note of a delivery. -/
def reconcile (station : Station) (index : Nat) (delivery : Delivery) : Station :=
  match station.reconcilers[index]? with
  | none => station
  | some stats =>
    let (stats, node) := Reconciliation.observe stats station.node delivery
    { station with node, reconcilers := station.reconcilers.set index stats }

/-- Has one reconciler greet a peer that has just connected. -/
def greet (station : Station) (index : Nat) (peer : PeerId) : Station :=
  match station.reconcilers[index]? with
  | none => station
  | some stats =>
    let (stats, node) := Reconciliation.peerConnected stats station.node peer
    { station with node, reconcilers := station.reconcilers.set index stats }

/-- Runs one handler on one delivery. -/
def runHandler (delivery : Delivery) (station : Station) : CallbackId × MessageHandler → Station
  | (id, .observer) => { station with log := station.log ++ [⟨id, delivery⟩] }
  | (_, .tally index) => station.countAck index delivery
  | (_, .reconciler index) => station.reconcile index delivery

/-- Runs every handler on one delivery. -/
def deliver (station : Station) (delivery : Delivery) : Station :=
  if station.hasRuntime then station.messageHandlers.foldl (runHandler delivery) station
  else station

/-- Runs one handler on a peer that has just connected. -/
def runConnectHandler (peer : PeerId) (station : Station) : CallbackId × ConnectHandler → Station
  | (_, .bystander) => station
  | (_, .reconciler index) => station.greet index peer

/-- Runs every handler on a peer that has just connected. -/
def peerConnected (station : Station) (peer : PeerId) : Station :=
  if station.hasRuntime then station.connectHandlers.foldl (runConnectHandler peer) station
  else station

/-! ## Flooding -/

/-- Floods a message that starts here. -/
def spread (station : Station) (message : Message) : Station × Except SpreadError Unit :=
  match station.node.spread message with
  | (node, .error cause) => ({ station with node }, .error cause)
  | (node, .ok deliveries) => (deliveries.foldl deliver { station with node }, .ok ())

/-- Processes a frame, as it came from a peer. -/
def handle (station : Station) (raw : Bytes) (sender : Option PeerId) : Station :=
  let (node, deliveries) := station.node.handle raw sender
  deliveries.foldl deliver { station with node }

/-- Takes a message into the cache without delivering or relaying it. -/
def addToCache (station : Station) (message : Message) : Station × Bool :=
  let (node, grown) := station.node.addToCache message
  ({ station with node }, grown)

end Station

end RadioGossip
