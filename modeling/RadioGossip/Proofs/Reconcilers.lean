import RadioGossip.Proofs.Merging

/-!
# Stations with a reconciler

A station **reconciles** when it runs one reconciler, for new connections and for deliveries,
whatever other handlers it runs. Then it does its part in catching up with its neighbours: it asks
every peer that connects, it answers every query, and it merges every answer. Asking and answering
leave the cache as it is, and merging sends nothing.
-/

namespace RadioGossip

namespace MessageHandler

/-- The statistics of a reconciler. -/
def reconciler? : MessageHandler → Option Nat
  | .reconciler index => some index
  | _ => none

end MessageHandler

namespace ConnectHandler

/-- The statistics of a reconciler. -/
def reconciler? : ConnectHandler → Option Nat
  | .reconciler index => some index
  | .bystander => none

end ConnectHandler

namespace Station

/-- The station runs one reconciler. -/
structure Reconciles (station : Station) : Prop where
  hasRuntime : station.hasRuntime = true
  greets : ∃ index < station.reconcilers.length,
    station.connectHandlers.filterMap (·.2.reconciler?) = [index]
  hears : ∃ index < station.reconcilers.length,
    station.messageHandlers.filterMap (·.2.reconciler?) = [index]

/-- What the outline leaves out of the handlers of a station, and what they do not change either. -/
structure Wiring where
  connectHandlers : List (CallbackId × ConnectHandler)
  reconcilers : Nat
  deriving DecidableEq, Repr

/-- The wiring of a station. -/
def wiring (station : Station) : Wiring := ⟨station.connectHandlers, station.reconcilers.length⟩

variable {station after : Station}

theorem Reconciles.of_outline_eq (h : station.Reconciles)
    (houtline : after.outline = station.outline) (hwiring : after.wiring = station.wiring) :
    after.Reconciles := by
  have hhandlers : after.messageHandlers = station.messageHandlers :=
    congrArg Outline.messageHandlers houtline
  have hruntime : after.hasRuntime = station.hasRuntime := congrArg Outline.hasRuntime houtline
  have hconnect : after.connectHandlers = station.connectHandlers :=
    congrArg Wiring.connectHandlers hwiring
  have hcount : after.reconcilers.length = station.reconcilers.length :=
    congrArg Wiring.reconcilers hwiring
  refine ⟨hruntime.trans h.hasRuntime, ?_, ?_⟩
  · rw [hcount, hconnect]
    exact h.greets
  · rw [hcount, hhandlers]
    exact h.hears

/-! ## Handlers -/

theorem wiring_runHandler (station : Station) (delivery : Delivery)
    (entry : CallbackId × MessageHandler) :
    (station.runHandler delivery entry).wiring = station.wiring := by
  obtain ⟨id, handler⟩ := entry
  cases handler with
  | observer => rfl
  | tally index => rfl
  | reconciler index =>
    simp only [runHandler, reconcile]
    split
    · rfl
    · simp [wiring]

theorem wiring_handle (station : Station) (raw : Bytes) (sender : Option PeerId) :
    (station.handle raw sender).wiring = station.wiring :=
  foldl_deliver_kept wiring (fun delivery _ other entry => other.wiring_runHandler delivery entry)
    { station with node := (station.node.handle raw sender).1 }

theorem wiring_peerConnected (station : Station) (peer : PeerId) :
    (station.peerConnected peer).wiring = station.wiring := by
  have hentry : ∀ (station : Station) (entry : CallbackId × ConnectHandler),
      (station.runConnectHandler peer entry).wiring = station.wiring := by
    rintro station ⟨id, handler⟩
    cases handler with
    | bystander => rfl
    | reconciler index =>
      simp only [runConnectHandler, greet]
      split
      · rfl
      · simp [wiring]
  exact peerConnected_kept wiring hentry station

/-- The messages that the reconcilers of a station merged, all told. -/
def merged (station : Station) : Nat := (station.reconcilers.map ReconcileStats.merged).sum

/-- One reconciler took its **turn**: what became of the node and of its statistics is what it made of
them, and nothing became of the statistics of others. -/
structure Turn (before after : Station) (stats : ReconcileStats) (result : ReconcileStats × Node) :
    Prop where
  node : after.node = result.2
  reconcilers : ∃ index, before.reconcilers[index]? = some stats ∧
    after.reconcilers = before.reconcilers.set index result.1

/-- What was merged in a turn adds to what was merged before. -/
theorem Turn.merged_eq {stats : ReconcileStats} {result : ReconcileStats × Node} {grown : Nat}
    (h : station.Turn after stats result) (hgrown : result.1.merged = stats.merged + grown) :
    after.merged = station.merged + grown := by
  obtain ⟨index, hstats, hset⟩ := h.reconcilers
  obtain ⟨hindex, rfl⟩ := List.getElem?_eq_some_iff.mp hstats
  -- Both lists hold the statistics of the others, and the two statistics differ by what came.
  have hbefore := ((List.getElem_cons_eraseIdx_perm hindex).symm.map ReconcileStats.merged).sum_eq
  have hafter := ((List.set_perm_cons_eraseIdx hindex result.1).map ReconcileStats.merged).sum_eq
  rw [List.map_cons, List.sum_cons] at hbefore hafter
  rw [merged, merged, hset, hafter, hbefore, hgrown]
  omega

theorem Turn.merged_eq_self {stats : ReconcileStats} {result : ReconcileStats × Node}
    (h : station.Turn after stats result) (hsame : result.1.merged = stats.merged) :
    after.merged = station.merged :=
  h.merged_eq (hsame.trans (Nat.add_zero _).symm)

/-- Handlers among which there is no reconciler leave the node and all statistics alone. -/
theorem foldl_runHandler_of_nil {delivery : Delivery}
    {handlers : List (CallbackId × MessageHandler)}
    (h : handlers.filterMap (·.2.reconciler?) = []) (station : Station) :
    (handlers.foldl (runHandler delivery) station).node = station.node ∧
      (handlers.foldl (runHandler delivery) station).reconcilers = station.reconcilers := by
  induction handlers generalizing station with
  | nil => exact ⟨rfl, rfl⟩
  | cons entry handlers ih =>
    obtain ⟨id, handler⟩ := entry
    cases handler with
    | observer => exact ih h (station.runHandler delivery (id, .observer))
    | tally index => exact ih h (station.runHandler delivery (id, .tally index))
    | reconciler index => cases h

/-- All that a delivery does to the node is what the one reconciler does. -/
theorem turn_foldl_runHandler (station : Station) (delivery : Delivery)
    {handlers : List (CallbackId × MessageHandler)} {index : Nat}
    (h : handlers.filterMap (·.2.reconciler?) = [index])
    (hindex : index < station.reconcilers.length) :
    ∃ stats, station.Turn (handlers.foldl (runHandler delivery) station) stats
      (Reconciliation.observe stats station.node delivery) := by
  induction handlers generalizing station with
  | nil => cases h
  | cons entry handlers ih =>
    obtain ⟨id, handler⟩ := entry
    cases handler with
    | observer =>
      obtain ⟨stats, hturn⟩ := ih (station.runHandler delivery (id, .observer)) h hindex
      exact ⟨stats, hturn.node, hturn.reconcilers⟩
    | tally other =>
      obtain ⟨stats, hturn⟩ := ih (station.runHandler delivery (id, .tally other)) h hindex
      exact ⟨stats, hturn.node, hturn.reconcilers⟩
    | reconciler other =>
      obtain ⟨rfl, hnil⟩ := List.cons.inj h
      have hstats := List.getElem?_eq_getElem hindex
      obtain ⟨hnode, hreconcilers⟩ :=
        foldl_runHandler_of_nil hnil (station.runHandler delivery (id, .reconciler other))
      refine ⟨station.reconcilers[other], ?_, other, hstats, ?_⟩
      · rw [List.foldl_cons, hnode, runHandler, reconcile, hstats]
      · rw [List.foldl_cons, hreconcilers, runHandler, reconcile, hstats]

/-- All that a new connection does to the node is what the one reconciler does. -/
theorem turn_foldl_runConnectHandler (station : Station) (peer : PeerId)
    {handlers : List (CallbackId × ConnectHandler)} {index : Nat}
    (h : handlers.filterMap (·.2.reconciler?) = [index])
    (hindex : index < station.reconcilers.length) :
    ∃ stats, station.Turn (handlers.foldl (runConnectHandler peer) station) stats
      (Reconciliation.peerConnected stats station.node peer) := by
  have hquiet : ∀ (handlers : List (CallbackId × ConnectHandler)) (station : Station),
      handlers.filterMap (·.2.reconciler?) = [] →
        handlers.foldl (runConnectHandler peer) station = station := by
    intro handlers station hnil
    induction handlers with
    | nil => rfl
    | cons entry handlers ih =>
      obtain ⟨id, handler⟩ := entry
      cases handler with
      | bystander => exact ih hnil
      | reconciler index => cases hnil
  induction handlers with
  | nil => cases h
  | cons entry handlers ih =>
    obtain ⟨id, handler⟩ := entry
    cases handler with
    | bystander => exact ih h
    | reconciler other =>
      obtain ⟨rfl, hnil⟩ := List.cons.inj h
      have hstats := List.getElem?_eq_getElem hindex
      refine ⟨station.reconcilers[other], ?_, other, hstats, ?_⟩
      · rw [List.foldl_cons, hquiet _ _ hnil, runConnectHandler, greet, hstats]
      · rw [List.foldl_cons, hquiet _ _ hnil, runConnectHandler, greet, hstats]

/-! ## Asking, answering, merging -/

/-- **A station asks** a peer that connects for what it does not hold itself. -/
theorem Reconciles.asks (h : station.Reconciles) (peer : PeerId) :
    ∃ frame, Reconciliation.CarriesUpdate frame
        ⟨.cacheRequest, (Reconciliation.queryOf station.node.engine.cache.keys).record⟩ ∧
      (station.node.Sends (station.peerConnected peer).node
        fun id => if some peer = some id then [frame] else []) ∧
      (station.peerConnected peer).node.engine = station.node.engine ∧
      (station.peerConnected peer).merged = station.merged := by
  obtain ⟨index, hindex, hgreets⟩ := h.greets
  obtain ⟨stats, hturn⟩ := station.turn_foldl_runConnectHandler peer hgreets hindex
  obtain ⟨frame, hcarries, hsends, hengine⟩ :=
    Reconciliation.sends_peerConnected stats station.node peer
  rw [peerConnected, if_pos h.hasRuntime, hturn.node]
  exact ⟨frame, hcarries, hsends, hengine,
    hturn.merged_eq_self (Reconciliation.merged_peerConnected stats station.node peer)⟩

/-- What a station with a reconciler makes of an update from a neighbour: its engine hands it on, and
the reconciler does the rest. -/
theorem Reconciles.exists_turn_handle (h : station.Reconciles) {frame : Bytes}
    {message : Message} (hraw : Message.decode frame = .ok message) {update : Update}
    (hcarries : message.Carries update) (peer : PeerId) :
    ∃ stats node, station.Turn (station.handle frame (some peer)) stats
        (Reconciliation.observe stats node ⟨message, some peer⟩) ∧
      node.peers = station.node.peers ∧ node.engine =
        { station.node.engine with
          stats.processed := station.node.engine.stats.processed + 1 } := by
  have hloop : message.path.contains station.node.engine.callsign = false := by
    rw [hcarries.path, Bool.eq_false_iff, Ne, Path.contains_iff_mem_hops, Path.hops_empty]
    exact List.not_mem_nil
  have hengine := Engine.handle_of_noCache hraw hloop hcarries.noCache
  have hevents :
      Node.eventsOf (station.node.engine.handle frame).2 = Event.about message none none := by
    rw [hengine]
    rfl
  obtain ⟨heard, hhandle, hpeers, hheard⟩ : ∃ heard : Node,
      station.handle frame (some peer) =
        { station with node := heard }.deliver ⟨message, some peer⟩ ∧
      heard.peers = station.node.peers ∧ heard.engine =
        { station.node.engine with
          stats.processed := station.node.engine.stats.processed + 1 } := by
    refine ⟨{ station.node with engine := (station.node.engine.handle frame).1 }.queueEvents
      (some peer) (Event.about message none none), ?_, ?_, ?_⟩
    · rw [handle, Node.handle_eq, hevents, Event.delivery?_about]
      rfl
    · simp [Node.queueEvents, Event.about, Event.framesFor, Peer.queueAll]
    · rw [hengine]
      rfl
  obtain ⟨index, hindex, hhears⟩ := h.hears
  obtain ⟨stats, hturn⟩ :=
    turn_foldl_runHandler { station with node := heard } ⟨message, some peer⟩ hhears hindex
  refine ⟨stats, heard, ?_, hpeers, hheard⟩
  rw [hhandle, deliver, if_pos h.hasRuntime]
  exact ⟨hturn.node, hturn.reconcilers⟩

/-- **A station answers** a query, and but for what it counts its engine stays as it is. -/
theorem Reconciles.answers (h : station.Reconciles) {frame : Bytes} {keys : List Key}
    (hframe : Reconciliation.CarriesUpdate frame
      ⟨.cacheRequest, (Reconciliation.queryOf keys).record⟩) (peer : PeerId) :
    ∃ reply, Reconciliation.CarriesUpdate reply
        ⟨.cacheResponse, (Reconciliation.answerFor keys station.node.cached).record⟩ ∧
      (station.node.Sends (station.handle frame (some peer)).node
        fun id => if some peer = some id then [reply] else []) ∧
      (station.handle frame (some peer)).node.engine =
        { station.node.engine with
          stats.processed := station.node.engine.stats.processed + 1 } ∧
      (station.handle frame (some peer)).merged = station.merged := by
  obtain ⟨message, hraw, hcarries⟩ := hframe
  obtain ⟨stats, node, hturn, hpeers, hheard⟩ := h.exists_turn_handle hraw hcarries peer
  obtain ⟨node', reply, hreact, hreply, hsends, hengine⟩ :=
    Reconciliation.sends_react_queryOf stats node peer hcarries.payload
  have hcached : node.cached = station.node.cached := by
    rw [Node.cached, hheard]
    rfl
  have hobserve : Reconciliation.observe stats node ⟨message, some peer⟩ =
      ({ stats with answers := stats.answers + 1 }, node') :=
    Reconciliation.observe_of_react_eq_ok hcarries.kind hreact
  rw [hcached] at hreply
  rw [hobserve] at hturn
  rw [hturn.node]
  exact ⟨reply, hreply, (Node.sends_of_peers_eq hpeers).trans hsends, hengine.trans hheard,
    hturn.merged_eq_self rfl⟩

/-- **A station merges** an answer: it takes the messages into its cache, counts those that the cache
took, and sends nothing. -/
theorem Reconciles.merges_all (h : station.Reconciles) {frame : Bytes} {keys : List Key}
    {cached : List Message}
    (hframe : Reconciliation.CarriesUpdate frame
      ⟨.cacheResponse, (Reconciliation.answerFor keys cached).record⟩) (peer : PeerId) :
    ∃ node : Node, node.engine =
        { station.node.engine with
          stats.processed := station.node.engine.stats.processed + 1 } ∧
      (station.handle frame (some peer)).node.peers = station.node.peers ∧
      (station.handle frame (some peer)).node.engine = (Reconciliation.mergeAll node
        ((Reconciliation.offered keys cached).map Message.canonical)).1.engine ∧
      (station.handle frame (some peer)).merged = station.merged + (Reconciliation.mergeAll node
        ((Reconciliation.offered keys cached).map Message.canonical)).2 := by
  obtain ⟨message, hraw, hcarries⟩ := hframe
  obtain ⟨stats, node, hturn, hpeers, hheard⟩ := h.exists_turn_handle hraw hcarries peer
  have hobserve : Reconciliation.observe stats node ⟨message, some peer⟩ =
      ({ stats with merged := stats.merged + (Reconciliation.mergeAll node
          ((Reconciliation.offered keys cached).map Message.canonical)).2 },
        (Reconciliation.mergeAll node
          ((Reconciliation.offered keys cached).map Message.canonical)).1) :=
    Reconciliation.observe_of_react_eq_ok hcarries.kind (Reconciliation.react_of_answer
      hcarries.payload (Reconciliation.decode_record_answerFor keys cached))
  rw [hobserve] at hturn
  refine ⟨node, hheard, ?_, ?_, hturn.merged_eq rfl⟩
  · rw [hturn.node, Reconciliation.peers_mergeAll, hpeers]
  · rw [hturn.node]

/-- Where there is room, a station that merges has grown by all the keys of the answer. -/
theorem Reconciles.merges (h : station.Reconciles) {frame : Bytes} {keys : List Key}
    {cached : List Message}
    (hframe : Reconciliation.CarriesUpdate frame
      ⟨.cacheResponse, (Reconciliation.answerFor keys cached).record⟩)
    (hsound : station.node.engine.cache.IsSound)
    (hkept : ∀ message ∈ cached, message.isNoCache = false)
    (hroom : station.node.engine.cache.HasRoomFor (Reconciliation.offeredKeys keys cached))
    (peer : PeerId) :
    (station.handle frame (some peer)).node.peers = station.node.peers ∧
      station.node.engine.cache.Grew (station.handle frame (some peer)).node.engine.cache
        (Reconciliation.offeredKeys keys cached) := by
  obtain ⟨node, hheard, hpeers, hengine, -⟩ := h.merges_all hframe peer
  have hcache : node.engine.cache = station.node.engine.cache := by rw [hheard]
  have hkeys : ((Reconciliation.offered keys cached).map Message.canonical).map Message.key =
      Reconciliation.offeredKeys keys cached :=
    List.map_map
  rw [hengine, ← hcache, ← hkeys]
  refine ⟨hpeers, Reconciliation.grew_mergeAll (hcache ▸ hsound) ?_ (by rwa [hkeys, hcache])⟩
  intro copy hcopy
  obtain ⟨message, hmessage, rfl⟩ := List.mem_map.mp hcopy
  exact hkept message (Reconciliation.mem_cached_of_mem_offered hmessage)

end Station

end RadioGossip
