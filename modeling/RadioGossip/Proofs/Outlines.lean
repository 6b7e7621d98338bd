import RadioGossip.Mesh.Basic
import RadioGossip.Proofs.Deliveries

/-!
# What stays as it is

Frames come and go, caches fill up and handlers count, but a mesh keeps its links, and each of its
stations keeps its contact, the room in its cache, its peers with the room in their outboxes, and
its handlers. All this is the **outline** of the mesh. No frame that is delivered changes it, whatever
the frame says and whoever reacts to it, so what depends on the outline alone can be read off the
mesh before a run: the callsigns of the stations, and who is **linked** to whom.
-/

namespace RadioGossip

/-! ## Nodes -/

namespace Node

/-- What a node keeps for good. -/
structure Outline where
  engine : Engine.Outline
  peers : List (PeerId × Nat)
  deriving DecidableEq, Repr

/-- The outline of a node. -/
def outline (node : Node) : Outline :=
  ⟨node.engine.outline, node.peers.map fun peer => (peer.id, peer.outbox.capacity)⟩

@[simp] theorem outline_queueEvents (node : Node) (sender : Option PeerId) (events : List Event) :
    (node.queueEvents sender events).outline = node.outline := by
  simp [outline, queueEvents, Peer.queueAll_eq]

@[simp] theorem outline_queue (node : Node) (id : PeerId) (data : Bytes) :
    (node.queue id data).outline = node.outline := by
  simp only [outline, queue, updatePeer, List.map_map, Outline.mk.injEq, true_and]
  refine List.map_congr_left fun peer _ => ?_
  simp only [Function.comp_apply]
  split <;> rfl

@[simp] theorem outline_handle (node : Node) (raw : Bytes) (sender : Option PeerId) :
    (node.handle raw sender).1.outline = node.outline := by
  rw [handle_eq, outline_queueEvents]
  simp [outline]

@[simp] theorem outline_spread (node : Node) (message : Message) :
    (node.spread message).1.outline = node.outline := by
  have hengine := node.engine.outline_spread message
  simp only [spread]
  split
  · next engine cause h =>
    rw [h] at hengine
    simpa [outline] using hengine
  · next engine events h =>
    rw [h] at hengine
    rw [carryOutAll_eq, outline_queueEvents]
    simpa [outline] using hengine

@[simp] theorem outline_addToCache (node : Node) (message : Message) :
    (node.addToCache message).1.outline = node.outline := by
  simp [addToCache, outline]

end Node

/-! ## Reconciliation -/

namespace Reconciliation

@[simp] theorem outline_updateMessage (node : Node) (operation : UpdateOperation)
    (data : Except WireError Bytes) :
    (updateMessage node operation data).1.outline = node.outline := by
  simp only [updateMessage]
  split <;> rfl

@[simp] theorem outline_mergeAll (node : Node) (messages : List Message) :
    (mergeAll node messages).1.outline = node.outline := by
  induction messages generalizing node with
  | nil => rfl
  | cons message messages ih =>
    simp only [mergeAll, ih, Node.outline_addToCache]

theorem outline_answer {stats stats' : ReconcileStats} {node node' : Node} {peer : PeerId}
    {data : Bytes} (h : answer stats node peer data = .ok (stats', node')) :
    node'.outline = node.outline := by
  simp only [answer] at h
  cases hquery : CacheQuery.decode data with
  | error cause => simp [hquery, bind, Except.bind] at h
  | ok query =>
    have hmessage := outline_updateMessage node .cacheResponse (answerTo query node.cached).encode
    cases hbuilt : (updateMessage node .cacheResponse (answerTo query node.cached).encode).2 with
    | error cause => simp [hquery, hbuilt, bind, Except.bind] at h
    | ok frame =>
      simp only [hquery, hbuilt, bind, Except.bind, pure, Except.pure, Except.ok.injEq,
        Prod.mk.injEq] at h
      rw [← h.2, Node.outline_queue, hmessage]

theorem outline_merge {stats stats' : ReconcileStats} {node node' : Node} {data : Bytes}
    (h : merge stats node data = .ok (stats', node')) : node'.outline = node.outline := by
  simp only [merge] at h
  cases hanswer : CacheAnswer.decode data with
  | error cause => simp [hanswer, bind, Except.bind] at h
  | ok answer =>
    simp only [hanswer, bind, Except.bind, pure, Except.pure, Except.ok.injEq, Prod.mk.injEq] at h
    rw [← h.2, outline_mergeAll]

theorem outline_react {stats stats' : ReconcileStats} {node node' : Node} {peer : PeerId}
    {payload : Bytes} (h : react stats node peer payload = .ok (stats', node')) :
    node'.outline = node.outline := by
  simp only [react] at h
  cases hupdate : Update.decode payload with
  | error cause => simp [hupdate, bind, Except.bind] at h
  | ok update =>
    simp only [hupdate, bind, Except.bind] at h
    split at h
    · exact outline_answer h
    · exact outline_merge h

@[simp] theorem outline_peerConnected (stats : ReconcileStats) (node : Node) (peer : PeerId) :
    (peerConnected stats node peer).2.outline = node.outline := by
  have hmessage := fun query : CacheQuery =>
    outline_updateMessage node .cacheRequest query.encode
  simp only [peerConnected]
  split
  · next h => rw [Node.outline_queue, ← hmessage, h]
  · next h => rw [← hmessage, h]

@[simp] theorem outline_observe (stats : ReconcileStats) (node : Node) (delivery : Delivery) :
    (observe stats node delivery).2.outline = node.outline := by
  simp only [observe]
  split
  · split
    · next h => exact outline_react h
    · rfl
  · rfl

end Reconciliation

/-! ## Stations -/

namespace Station

/-- What a station keeps for good. -/
structure Outline where
  node : Node.Outline
  messageHandlers : List (CallbackId × MessageHandler)
  hasRuntime : Bool
  deriving DecidableEq, Repr

/-- The outline of a station. -/
def outline (station : Station) : Outline :=
  ⟨station.node.outline, station.messageHandlers, station.hasRuntime⟩

theorem outline_runHandler (station : Station) (delivery : Delivery)
    (entry : CallbackId × MessageHandler) :
    (station.runHandler delivery entry).outline = station.outline := by
  obtain ⟨id, handler⟩ := entry
  cases handler with
  | observer => rfl
  | tally index => rfl
  | reconciler index =>
    simp only [runHandler, reconcile]
    split
    · rfl
    · simp [outline]

@[simp] theorem outline_deliver (station : Station) (delivery : Delivery) :
    (station.deliver delivery).outline = station.outline :=
  deliver_kept outline (fun other entry => other.outline_runHandler delivery entry) station

theorem outline_foldl_deliver (station : Station) (deliveries : List Delivery) :
    (deliveries.foldl deliver station).outline = station.outline :=
  foldl_deliver_kept outline (fun delivery _ other entry => other.outline_runHandler delivery entry)
    station

@[simp] theorem outline_handle (station : Station) (raw : Bytes) (sender : Option PeerId) :
    (station.handle raw sender).outline = station.outline := by
  rw [handle, outline_foldl_deliver]
  simp [outline]

@[simp] theorem outline_spread (station : Station) (message : Message) :
    (station.spread message).1.outline = station.outline := by
  have hnode := station.node.outline_spread message
  simp only [spread]
  split
  · next node cause h =>
    rw [h] at hnode
    simpa [outline] using hnode
  · next node deliveries h =>
    rw [h] at hnode
    rw [outline_foldl_deliver]
    simpa [outline] using hnode

@[simp] theorem outline_peerConnected (station : Station) (peer : PeerId) :
    (station.peerConnected peer).outline = station.outline := by
  have hentry : ∀ (station : Station) (entry : CallbackId × ConnectHandler),
      (station.runConnectHandler peer entry).outline = station.outline := by
    rintro station ⟨id, handler⟩
    cases handler with
    | bystander => rfl
    | reconciler index =>
      simp only [runConnectHandler, greet]
      split
      · rfl
      · simp [outline]
  exact peerConnected_kept outline hentry station

/-- The callsign of the station as it stands in paths. -/
def callsign (station : Station) : String := station.node.engine.callsign

theorem callsign_of_outline_eq {station other : Station} (h : station.outline = other.outline) :
    station.callsign = other.callsign :=
  congrArg (fun outline => outline.node.engine.self.callsignText) h

end Station

/-! ## Meshes -/

namespace Mesh

/-- What a mesh keeps for good. -/
structure Outline where
  stations : List Station.Outline
  links : List (LinkEnd × LinkEnd)
  deriving DecidableEq, Repr

/-- The outline of a mesh. -/
def outline (mesh : Mesh) : Outline := ⟨mesh.stations.map Station.outline, mesh.links⟩

/-- Two meshes of one outline have the same stations, as far as outlines go. -/
theorem exists_station_of_outline_eq {mesh other : Mesh} (h : mesh.outline = other.outline)
    {index : Nat} {station : Station} (hstation : mesh.stations[index]? = some station) :
    ∃ other', other.stations[index]? = some other' ∧ other'.outline = station.outline := by
  have hmap := congrArg (fun outline => outline.stations[index]?) h
  simp only [outline, List.getElem?_map, hstation, Option.map_some] at hmap
  obtain ⟨other', hother, houtline⟩ := Option.map_eq_some_iff.mp hmap.symm
  exact ⟨other', hother, houtline⟩

theorem length_stations_of_outline_eq {mesh other : Mesh} (h : mesh.outline = other.outline) :
    mesh.stations.length = other.stations.length := by
  have hmap := congrArg (fun outline => outline.stations.length) h
  simpa [outline] using hmap

/-- A station stands where there is one in every mesh of the outline. -/
theorem lt_length_of_outline_eq {mesh other : Mesh} (h : mesh.outline = other.outline) {index : Nat}
    {station : Station} (hstation : mesh.stations[index]? = some station) :
    index < other.stations.length := by
  rw [← length_stations_of_outline_eq h]
  exact (List.getElem?_eq_some_iff.mp hstation).1

theorem otherEnd?_of_outline_eq {mesh other : Mesh} (h : mesh.outline = other.outline) :
    mesh.otherEnd? = other.otherEnd? := by
  have hlinks : mesh.links = other.links := congrArg Outline.links h
  funext here
  rw [otherEnd?, otherEnd?, hlinks]

@[simp] theorem outline_takeFromStation (mesh : Mesh) (index : Nat) (station : Station) :
    (mesh.takeFromStation index station).1.outline = station.outline := by
  simp only [takeFromStation, Station.outline, Node.outline, List.map_map, Station.Outline.mk.injEq,
    Node.Outline.mk.injEq, and_true, true_and]
  refine List.map_congr_left fun peer _ => ?_
  simp only [Function.comp_apply, takeFrom]
  split <;> rfl

@[simp] theorem outline_launch (mesh : Mesh) : mesh.launch.outline = mesh.outline := by
  simp only [outline, launch, Outline.mk.injEq, and_true]
  refine List.ext_getElem? fun index => ?_
  simp only [List.getElem?_map, List.getElem?_mapIdx, Option.map_map]
  cases mesh.stations[index]? with
  | none => rfl
  | some station => simp

/-- A change of one station that keeps its outline keeps the outline of the mesh. -/
theorem outline_updateStation {change : Station → Station} (mesh : Mesh) (index : Nat)
    (h : ∀ station, (change station).outline = station.outline) :
    (mesh.updateStation index change).outline = mesh.outline := by
  simp only [outline, updateStation, Outline.mk.injEq, and_true]
  refine List.ext_getElem? fun other => ?_
  simp only [List.getElem?_map, List.getElem?_modify]
  cases mesh.stations[other]? with
  | none => rfl
  | some station =>
    simp only [Option.map_some]
    split <;> simp [h]

@[simp] theorem outline_deliver (mesh : Mesh) (flight : Flight) :
    (mesh.deliver flight).outline = mesh.outline :=
  outline_updateStation mesh _ fun station => Station.outline_handle station ..

@[simp] theorem outline_step (mesh : Mesh) (index : Nat) :
    (mesh.step index).outline = mesh.outline := by
  simp only [step]
  split
  · rfl
  · rw [outline_launch, outline_deliver]
    rfl

@[simp] theorem outline_spread (mesh : Mesh) (index : Nat) (message : Message) :
    (mesh.spread index message).1.outline = mesh.outline := by
  simp only [spread]
  split
  · rfl
  · next station h =>
    simp only [outline, Outline.mk.injEq, and_true]
    refine List.ext_getElem? fun other => ?_
    simp only [List.getElem?_map, List.getElem?_set]
    split
    · next heq =>
      subst heq
      split
      · rw [h]
        simp
      · next hlt => rw [List.getElem?_eq_none (Nat.not_lt.mp hlt)]
    · rfl

/-- A peer of one station leads to another station. -/
def Linked (mesh : Mesh) (here there : Nat) : Prop :=
  ∃ station ∈ mesh.stations[here]?, ∃ peer ∈ station.node.peers,
    ∃ target ∈ mesh.otherEnd? ⟨here, peer.id⟩, target.station = there

instance (mesh : Mesh) (here there : Nat) : Decidable (mesh.Linked here there) :=
  inferInstanceAs (Decidable (∃ station ∈ mesh.stations[here]?, ∃ peer ∈ station.node.peers,
    ∃ target ∈ mesh.otherEnd? ⟨here, peer.id⟩, target.station = there))

/-- A peer of the station leads to this end of a link. -/
def LeadsTo (mesh : Mesh) (index : Nat) (target : LinkEnd) : Prop :=
  ∃ station ∈ mesh.stations[index]?, ∃ peer ∈ station.node.peers,
    mesh.otherEnd? ⟨index, peer.id⟩ = some target

theorem linked_iff {mesh : Mesh} {here there : Nat} :
    mesh.Linked here there ↔ ∃ target, mesh.LeadsTo here target ∧ target.station = there := by
  constructor
  · rintro ⟨station, hstation, peer, hpeer, target, htarget, hthere⟩
    exact ⟨target, ⟨station, hstation, peer, hpeer, htarget⟩, hthere⟩
  · rintro ⟨target, ⟨station, hstation, peer, hpeer, htarget⟩, hthere⟩
    exact ⟨station, hstation, peer, hpeer, target, htarget, hthere⟩

/-- The peers of a station lead to the same ends in every mesh of the outline. -/
theorem leadsTo_of_outline_eq {mesh other : Mesh} (h : mesh.outline = other.outline) {index : Nat}
    {target : LinkEnd} (hleads : mesh.LeadsTo index target) : other.LeadsTo index target := by
  obtain ⟨station, hstation, peer, hpeer, htarget⟩ := hleads
  obtain ⟨other', hother, houtline⟩ := exists_station_of_outline_eq h hstation
  have hpeers : other'.node.outline.peers = station.node.outline.peers :=
    congrArg (fun outline => outline.node.peers) houtline
  have hmem : (peer.id, peer.outbox.capacity) ∈ other'.node.outline.peers := by
    rw [hpeers]
    exact List.mem_map_of_mem hpeer
  obtain ⟨peer', hpeer', heq⟩ := List.mem_map.mp hmem
  have hid : peer'.id = peer.id := congrArg Prod.fst heq
  rw [← hid, otherEnd?_of_outline_eq h] at htarget
  exact ⟨other', hother, peer', hpeer', htarget⟩

/-- Linked stations have a link in every mesh of the outline. -/
theorem linked_of_outline_eq {mesh other : Mesh} (h : mesh.outline = other.outline)
    {here there : Nat} (hlinked : mesh.Linked here there) : other.Linked here there := by
  obtain ⟨target, hleads, hthere⟩ := linked_iff.mp hlinked
  exact linked_iff.mpr ⟨target, leadsTo_of_outline_eq h hleads, hthere⟩

end Mesh

end RadioGossip
