import Mathlib.Logic.Relation
import RadioGossip.Proofs.Launching
import RadioGossip.Proofs.Spreading

/-!
# Meshes that are ready

What a flood takes for granted. The stations of a mesh that is **ready** for a message have distinct
callsigns that may stand in paths, room in their caches and outboxes, and no handler that answers the
message with messages of its own; nothing is cached or under way. The message is **floodable** if it
can be written, is to be kept, has been nowhere, and has a hop budget for as many stations as there
are.

Under these conditions the path of a copy names a station exactly when the copy came along it.
-/

namespace RadioGossip

/-! ## Messages -/

namespace Message

/-- The message can be flooded through so many stations. -/
structure IsFloodable (message : Message) (count : Nat) : Prop where
  canonical : message.IsCanonical
  kept : message.isNoCache = false
  path : message.path = .empty
  payload : message.payload.length ≤ maxPayloadLength
  budget : count ≤ message.ttl.toNat

end Message

/-! ## Stations -/

namespace Station

/-- The callsign of the station is text that may stand in a path as one hop. -/
def IsNamed (station : Station) : Prop :=
  ∃ name, Path.IsCallsign name ∧ Text.ofUtf8? station.node.self.callsign = some name

/-- A callsign that is text stands in paths as that text. -/
theorem IsNamed.utf8_callsign {station : Station} (h : station.IsNamed) :
    Text.utf8 station.callsign = station.node.self.callsign := by
  obtain ⟨name, -, hname⟩ := h
  have htext : station.callsign = name := by
    simp only [Station.callsign, Engine.callsign, Contact.callsignText, Text.ofBytes]
    rw [show station.node.engine.self = station.node.self from rfl, hname]
  rw [htext, Text.utf8_of_ofUtf8? hname]

theorem IsNamed.isCallsign {station : Station} (h : station.IsNamed) :
    Path.IsCallsign station.callsign := by
  have htext := Text.ofUtf8?_utf8 station.callsign
  rw [h.utf8_callsign] at htext
  obtain ⟨name, hcallsign, hname⟩ := h
  rw [hname, Option.some.injEq] at htext
  rwa [← htext]

theorem IsNamed.utf8ByteSize_callsign_le {station : Station} (h : station.IsNamed) :
    station.callsign.utf8ByteSize ≤ maxFieldLength := by
  rw [← Text.length_utf8, h.utf8_callsign]
  exact station.node.self.callsign_le

/-- What a station must be like for good to take part in the flood of a message. -/
structure Admits (station : Station) (message : Message) : Prop where
  callsign : ∃ name, Path.IsCallsign name ∧ Text.ofUtf8? station.node.self.callsign = some name
  capacity : 1 ≤ station.node.engine.cache.capacity
  room : ∀ peer ∈ station.node.peers, message.framesPerPeer ≤ max 1 peer.outbox.capacity
  ignores : Ignores station.messageHandlers message

theorem admits_of_outline_eq {station other : Station} {message : Message}
    (h : station.outline = other.outline) (hadmits : other.Admits message) :
    station.Admits message where
  callsign := by
    have hself : station.node.self = other.node.self :=
      congrArg (fun outline => outline.node.engine.self) h
    rw [hself]
    exact hadmits.callsign
  capacity := by
    have hcapacity : station.node.engine.cache.capacity = other.node.engine.cache.capacity :=
      congrArg (fun outline => outline.node.engine.capacity) h
    rw [hcapacity]
    exact hadmits.capacity
  room peer hpeer := by
    have hpeers : station.node.outline.peers = other.node.outline.peers :=
      congrArg (fun outline => outline.node.peers) h
    have hmem : (peer.id, peer.outbox.capacity) ∈ other.node.outline.peers := by
      rw [← hpeers]
      exact List.mem_map_of_mem hpeer
    obtain ⟨peer', hpeer', heq⟩ := List.mem_map.mp hmem
    have hcapacity : peer'.outbox.capacity = peer.outbox.capacity := congrArg Prod.snd heq
    rw [← hcapacity]
    exact hadmits.room peer' hpeer'
  ignores := by
    have hhandlers : station.messageHandlers = other.messageHandlers :=
      congrArg Station.Outline.messageHandlers h
    rw [hhandlers]
    exact hadmits.ignores

theorem Admits.isNamed {station : Station} {message : Message} (h : station.Admits message) :
    station.IsNamed :=
  h.callsign

end Station

/-! ## Meshes -/

namespace Mesh

variable {mesh : Mesh} {message : Message}

/-- Every station can be reached from every other over links. -/
def Connected (mesh : Mesh) : Prop :=
  ∀ here < mesh.stations.length, ∀ there < mesh.stations.length,
    Relation.ReflTransGen mesh.Linked here there

/-- The callsigns of all stations may stand in paths. -/
def IsNamed (mesh : Mesh) : Prop := ∀ station ∈ mesh.stations, station.IsNamed

/-- The stations have callsigns of their own, which may stand in paths. -/
structure IsAddressed (mesh : Mesh) : Prop where
  named : mesh.IsNamed
  distinct : (mesh.stations.map fun station => station.node.self.callsign).Nodup

/-- The mesh is ready for the flood of a message. -/
structure ReadyFor (mesh : Mesh) (message : Message) : Prop where
  admits : ∀ station ∈ mesh.stations, station.Admits message
  distinct : (mesh.stations.map fun station => station.node.self.callsign).Nodup
  uncached : ∀ station ∈ mesh.stations, station.node.cached = []
  unheard : ∀ station ∈ mesh.stations, ∀ entry ∈ station.log,
    entry.delivery.message.key ≠ message.key
  drained : mesh.IsDrained
  idle : mesh.inFlight = []

theorem callsign_eq {index : Nat} {station : Station} (h : mesh.stations[index]? = some station) :
    mesh.callsign index = station.callsign := by
  rw [callsign, h]
  rfl

/-- The stations have their callsigns in every mesh of the outline. -/
theorem callsign_of_outline_eq {base : Mesh} (h : mesh.outline = base.outline) {index : Nat}
    {station : Station} (hstation : mesh.stations[index]? = some station) :
    base.callsign index = station.callsign := by
  obtain ⟨station', hstation', houtline⟩ := exists_station_of_outline_eq h hstation
  rw [callsign_eq hstation', Station.callsign_of_outline_eq houtline]

/-- The stations can take part in a flood in every mesh of the outline. -/
theorem admits_of_outline_eq {base : Mesh} (h : mesh.outline = base.outline)
    (hadmits : ∀ station ∈ base.stations, station.Admits message) {index : Nat} {station : Station}
    (hstation : mesh.stations[index]? = some station) : station.Admits message := by
  obtain ⟨station', hstation', houtline⟩ := exists_station_of_outline_eq h hstation
  exact Station.admits_of_outline_eq houtline.symm
    (hadmits station' (List.mem_of_getElem? hstation'))

theorem IsNamed.isCallsign (h : mesh.IsNamed) {index : Nat}
    (hindex : index < mesh.stations.length) : Path.IsCallsign (mesh.callsign index) := by
  rw [callsign_eq (List.getElem?_eq_getElem hindex)]
  exact (h _ (List.getElem_mem hindex)).isCallsign

theorem IsNamed.utf8ByteSize_callsign_le (h : mesh.IsNamed) {index : Nat}
    (hindex : index < mesh.stations.length) :
    (mesh.callsign index).utf8ByteSize ≤ maxFieldLength := by
  rw [callsign_eq (List.getElem?_eq_getElem hindex)]
  exact (h _ (List.getElem_mem hindex)).utf8ByteSize_callsign_le

theorem ReadyFor.isNamed (h : mesh.ReadyFor message) : mesh.IsNamed :=
  fun station hstation => (h.admits station hstation).isNamed

theorem ReadyFor.isAddressed (h : mesh.ReadyFor message) : mesh.IsAddressed :=
  ⟨h.isNamed, h.distinct⟩

/-- No two stations have one callsign. -/
theorem IsAddressed.callsign_inj (h : mesh.IsAddressed) {here there : Nat}
    (hhere : here < mesh.stations.length) (hthere : there < mesh.stations.length)
    (heq : mesh.callsign here = mesh.callsign there) : here = there := by
  have hstation := List.getElem?_eq_getElem hhere
  have hstation' := List.getElem?_eq_getElem hthere
  rw [callsign_eq hstation, callsign_eq hstation'] at heq
  -- It is the bytes of the callsigns that are distinct, and these are the bytes of their texts.
  refine (List.getElem?_inj (by simpa using hhere) h.distinct).mp ?_
  rw [List.getElem?_map, List.getElem?_map, hstation, hstation', Option.map_some, Option.map_some,
    ← (h.named _ (List.getElem_mem hhere)).utf8_callsign,
    ← (h.named _ (List.getElem_mem hthere)).utf8_callsign, heq]

/-! ## Copies -/

/-- The copy of a message that came along some stations, the first of them first. -/
def copyAlong (mesh : Mesh) (message : Message) (route : List Nat) : Message :=
  message.along (route.map mesh.callsign)

theorem copyAlong_concat (mesh : Mesh) (message : Message) (route : List Nat) (index : Nat) :
    mesh.copyAlong message (route ++ [index]) =
      (mesh.copyAlong message route).hop (mesh.callsign index) := by
  rw [copyAlong, List.map_append, List.map_singleton, Message.along_concat, copyAlong]

theorem isCopyOf_copyAlong (mesh : Mesh) (message : Message) (route : List Nat) :
    (mesh.copyAlong message route).isCopyOf message = true :=
  message.isCopyOf_along _

/-- A copy has budget left as long as its route is shorter than the budget was. -/
theorem ttl_copyAlong_ne_zero_iff {route : List Nat} :
    (mesh.copyAlong message route).ttl ≠ 0 ↔ route.length < message.ttl.toNat := by
  have httl := message.toNat_ttl_along (route.map mesh.callsign)
  rw [List.length_map] at httl
  rw [copyAlong, Ne, ← UInt8.toNat_inj, httl, UInt8.toNat_zero]
  omega

variable {route : List Nat}

/-- **The path of a copy is its route.** -/
theorem IsNamed.hops_copyAlong (h : mesh.IsNamed) (hpath : message.path = .empty)
    (hroute : ∀ stop ∈ route, stop < mesh.stations.length) :
    (mesh.copyAlong message route).path.hops = route.map mesh.callsign := by
  rw [copyAlong, Message.hops_along, hpath, Path.hops_empty, List.nil_append]
  intro callsign hcallsign
  obtain ⟨stop, hstop, rfl⟩ := List.mem_map.mp hcallsign
  exact h.isCallsign (hroute stop hstop)

/-- The path of a copy names the stations of its route and no others. -/
theorem IsAddressed.contains_copyAlong_iff (h : mesh.IsAddressed)
    (hpath : message.path = .empty) (hroute : ∀ stop ∈ route, stop < mesh.stations.length)
    {index : Nat} (hindex : index < mesh.stations.length) :
    (mesh.copyAlong message route).path.contains (mesh.callsign index) = true ↔ index ∈ route := by
  rw [Path.contains_iff_mem_hops, h.named.hops_copyAlong hpath hroute, List.mem_map]
  constructor
  · rintro ⟨stop, hstop, heq⟩
    rwa [← h.callsign_inj (hroute stop hstop) hindex heq]
  · exact fun hmem => ⟨index, hmem, rfl⟩

theorem IsNamed.utf8ByteSize_le_of_mem_map (h : mesh.IsNamed)
    (hroute : ∀ stop ∈ route, stop < mesh.stations.length) :
    ∀ callsign ∈ route.map mesh.callsign, callsign.utf8ByteSize ≤ maxFieldLength := by
  intro callsign hcallsign
  obtain ⟨stop, hstop, rfl⟩ := List.mem_map.mp hcallsign
  exact h.utf8ByteSize_callsign_le (hroute stop hstop)

theorem IsNamed.fits_copyAlong (h : mesh.IsNamed) {count : Nat}
    (hmessage : message.IsFloodable count) (hroute : ∀ stop ∈ route, stop < mesh.stations.length)
    (hlength : route.length ≤ 255) : (mesh.copyAlong message route).Fits :=
  Message.fits_along hmessage.path hmessage.payload (h.utf8ByteSize_le_of_mem_map hroute)
    (by rwa [List.length_map])

/-- A station can write its copy of a message that has been nowhere, and its path does not name it. -/
theorem IsNamed.fits_hop (h : mesh.IsNamed) {count : Nat} (hmessage : message.IsFloodable count)
    {station : Station} (hstation : station ∈ mesh.stations) :
    message.path.contains station.callsign = false ∧ (message.hop station.callsign).Fits := by
  obtain ⟨index, hindex⟩ := List.mem_iff_getElem?.mp hstation
  have hlt := (List.getElem?_eq_some_iff.mp hindex).1
  constructor
  · rw [hmessage.path, Bool.eq_false_iff, Ne, Path.contains_iff_mem_hops, Path.hops_empty]
    exact List.not_mem_nil
  · have hfits : (mesh.copyAlong message ([] ++ [index])).Fits := h.fits_copyAlong hmessage
      (fun stop hstop => List.mem_singleton.mp hstop ▸ hlt) (by simp)
    rwa [copyAlong_concat, callsign_eq hindex] at hfits

/-! ## Frames -/

/-- What the peers of a station get when it reacts fits into their outboxes, if these held nothing, so
it is all that comes into flight. -/
theorem mem_takeFromStation_of_admits (hdrained : mesh.IsDrained) {index : Nat}
    {station after : Station} (hadmits : station.Admits message) {frames : PeerId → List Bytes}
    (hstation : mesh.stations[index]? = some station)
    (hpeers : after.node.peers = station.node.peers.map fun peer => peer.queueAll (frames peer.id))
    (hlength : ∀ id, (frames id).length ≤ message.framesPerPeer) (flight : Flight) :
    flight ∈ (mesh.takeFromStation index after).2 ↔
      ∃ peer ∈ station.node.peers, mesh.otherEnd? ⟨index, peer.id⟩ = some flight.target ∧
        flight.data ∈ frames peer.id := by
  refine mem_takeFromStation_queueAll hpeers fun peer hpeer hlinked => ?_
  have hempty := hdrained index station hstation peer hpeer hlinked
  have hroom := hadmits.room peer hpeer
  have hsize : peer.outbox.size = 0 := by
    have hnone := congrArg List.length hempty
    simpa [Outbox.contents, Outbox.size] using hnone
  have hframes := hlength peer.id
  refine ⟨hempty, ?_⟩
  simp only [Outbox.HasRoom, hsize]
  omega

/-! ## Meshes of new stations -/

/-- What makes a mesh of stations that hold nothing and have heard nothing ready for a message that is
no update can be checked station by station. -/
theorem readyFor_of_new
    (hnames : ∀ station ∈ mesh.stations,
      Text.ofUtf8? station.node.self.callsign = some station.callsign ∧
        station.callsign ≠ "" ∧ Path.separator ∉ station.callsign.toList)
    (hdistinct : (mesh.stations.map fun station => station.node.self.callsign).Nodup)
    (hroom : ∀ station ∈ mesh.stations, 1 ≤ station.node.engine.cache.capacity ∧
      ∀ peer ∈ station.node.peers, message.framesPerPeer ≤ max 1 peer.outbox.capacity ∧
        peer.outbox.contents = [])
    (hnew : ∀ station ∈ mesh.stations, station.node.cached = [] ∧ station.log = [])
    (hkind : message.kind ≠ .update) (hidle : mesh.inFlight = []) : mesh.ReadyFor message where
  admits station hstation := by
    obtain ⟨htext, hne, hseparator⟩ := hnames station hstation
    obtain ⟨hcapacity, hpeers⟩ := hroom station hstation
    exact ⟨⟨_, ⟨hne, hseparator⟩, htext⟩, hcapacity, fun peer hpeer => (hpeers peer hpeer).1,
      fun hupdate => absurd hupdate hkind⟩
  distinct := hdistinct
  uncached station hstation := (hnew station hstation).1
  unheard station hstation := by
    rw [(hnew station hstation).2]
    exact nofun
  drained index station hstation peer hpeer _ :=
    ((hroom station (List.mem_of_getElem? hstation)).2 peer hpeer).2
  idle := hidle

/-! ## A ring -/

/-- Three stations in a ring, each with an observer. -/
def ring : Mesh :=
  let station (callsign : UInt8) : Station := (Station.ofNode (.new (.ofLetter callsign)
    { cacheSize := 2, queueSize := 2 } 1)).registerObserver.1
  ofStations [station 65, station 66, station 67] [(0, 1), (1, 2), (2, 0)]

/-- A message from the first station of the ring, which wants to hear that it arrived. -/
def ringMessage : Message :=
  { Message.make (.ofLetter 65) 7 .cq [1] with
    ttl := 3
    flags := Message.ackFlag }

theorem connected_ring : ring.Connected := by
  have hlinked : ∀ here < ring.stations.length, ∀ there < ring.stations.length,
      here = there ∨ ring.Linked here there := by decide +kernel
  intro here hhere there hthere
  rcases hlinked here hhere there hthere with rfl | hlinked
  · exact .refl
  · exact .single hlinked

theorem readyFor_ring : ring.ReadyFor ringMessage :=
  readyFor_of_new (by decide +kernel) (by decide +kernel) (by decide +kernel) (by decide +kernel)
    (by decide) (by decide +kernel)

end Mesh

end RadioGossip
