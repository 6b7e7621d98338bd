import RadioGossip.Proofs.Launching
import RadioGossip.Proofs.Reconcilers

/-!
# Exchanges

One **exchange** between neighbours: a peer connects, the station asks it, the other station answers,
and the first one merges the answer. What else is in flight in the mesh meanwhile stays where it is.
If there is room, the station has then grown by the keys that it was offered.
-/

namespace RadioGossip

/-! ## Single frames -/

namespace Mesh

variable {mesh : Mesh} {index : Nat} {station after : Station} {left : List Flight}

/-- A linked peer that held nothing holds just the frames that it got. -/
theorem flights_queueAll {peer : Peer} {frames : List Bytes} {target : LinkEnd}
    (htarget : mesh.otherEnd? ⟨index, peer.id⟩ = some target) (hempty : peer.outbox.contents = [])
    (hroom : peer.outbox.HasRoom frames.length) :
    (mesh.takeFrom index (peer.queueAll frames)).2 = frames.map (Flight.mk target) := by
  have hcontents := Outbox.contents_pushAll hroom
  rw [hempty, List.nil_append] at hcontents
  simp only [takeFrom, Peer.queueAll_eq, htarget, Outbox.takeAll, hcontents]

/-- Nothing comes from a drained peer that got nothing. -/
theorem flights_of_drained {peer : Peer}
    (hempty : (mesh.otherEnd? ⟨index, peer.id⟩).isSome = true → peer.outbox.contents = []) :
    (mesh.takeFrom index peer).2 = [] := by
  simp only [takeFrom]
  split
  · rfl
  · next target htarget =>
    rw [htarget] at hempty
    simp [Outbox.takeAll, hempty rfl]

/-- A drained station that sends one frame to one of its peers puts it in flight. -/
theorem flights_of_sends_one {id : PeerId} {frame : Bytes} {target : LinkEnd}
    (hdrained : ∀ peer ∈ station.node.peers,
      (mesh.otherEnd? ⟨index, peer.id⟩).isSome = true → peer.outbox.contents = [])
    (hnodup : (station.node.peers.map Peer.id).Nodup) (hid : id ∈ station.node.peers.map Peer.id)
    (htarget : mesh.otherEnd? ⟨index, id⟩ = some target)
    (hsends : station.node.Sends after.node
      fun other => if some id = some other then [frame] else []) :
    (mesh.takeFromStation index after).2 = [⟨target, frame⟩] := by
  have hflights : (mesh.takeFromStation index after).2 = station.node.peers.flatMap fun peer =>
      (mesh.takeFrom index (peer.queueAll (if some id = some peer.id then [frame] else []))).2 := by
    show (after.node.peers.map (mesh.takeFrom index)).flatMap Prod.snd = _
    rw [hsends, List.flatMap_map, List.flatMap_map]
  obtain ⟨peer, hpeer, rfl⟩ := List.mem_map.mp hid
  obtain ⟨before, behind, hpeers⟩ := List.append_of_mem hpeer
  have hquiet : ∀ others : List Peer, others ⊆ station.node.peers →
      peer.id ∉ others.map Peer.id → others.flatMap (fun other => (mesh.takeFrom index
        (other.queueAll (if some peer.id = some other.id then [frame] else []))).2) = [] := by
    intro others hsubset hnew
    refine List.flatMap_eq_nil_iff.mpr fun other hother => ?_
    have hne : some peer.id ≠ some other.id := by
      intro heq
      exact hnew (Option.some.inj heq ▸ List.mem_map_of_mem hother)
    rw [if_neg hne]
    exact flights_of_drained (hdrained other (hsubset hother))
  have hsent : (mesh.takeFrom index (peer.queueAll [frame])).2 = [⟨target, frame⟩] := by
    have hempty := hdrained peer hpeer (by rw [htarget]; rfl)
    have hsize : peer.outbox.size = 0 := by
      have hnone := congrArg List.length hempty
      simpa [Outbox.contents, Outbox.size] using hnone
    rw [flights_queueAll htarget hempty ?_, List.map_singleton]
    simp only [Outbox.HasRoom, hsize, List.length_singleton]
    omega
  -- No other peer has this number, so the others get nothing.
  rw [hpeers, List.map_append, List.map_cons] at hnodup
  obtain ⟨-, hbehind, hapart⟩ := List.nodup_append.mp hnodup
  have hbefore : peer.id ∉ before.map Peer.id := fun hmem =>
    hapart _ hmem _ List.mem_cons_self rfl
  rw [hflights, hpeers, List.flatMap_append, List.flatMap_cons, if_pos rfl, hsent,
    hquiet before (by simp [hpeers]) hbefore,
    hquiet behind (by simp [hpeers]) (List.nodup_cons.mp hbehind).1]
  rfl

end Mesh

/-! ## Neighbours -/

namespace Station

/-- The station reconciles, it has the peer, and it holds the cache. -/
structure Serves (station : Station) (peer : PeerId) (cache : Cache) : Prop where
  reconciles : station.Reconciles
  nodup : (station.node.peers.map Peer.id).Nodup
  mem : peer ∈ station.node.peers.map Peer.id
  cache_eq : station.node.engine.cache = cache

theorem Serves.of_outline_eq {station after : Station} {peer : PeerId} {cache cache' : Cache}
    (h : station.Serves peer cache) (houtline : after.outline = station.outline)
    (hwiring : after.wiring = station.wiring) (hcache : after.node.engine.cache = cache') :
    after.Serves peer cache' := by
  have hpeers : after.node.peers.map Peer.id = station.node.peers.map Peer.id := by
    have hmap := congrArg (fun outline => outline.node.peers.map Prod.fst) houtline
    simpa [outline, Node.outline, Function.comp_def] using hmap
  refine ⟨h.reconciles.of_outline_eq houtline hwiring, ?_, ?_, hcache⟩
  · rw [hpeers]
    exact h.nodup
  · rw [hpeers]
    exact h.mem

end Station

namespace Mesh

/-- A link joins two stations that reconcile and hold these caches. -/
structure Joins (mesh : Mesh) (here there : LinkEnd) (cache cache' : Cache) : Prop where
  drained : mesh.IsDrained
  near : ∃ station, mesh.stations[here.station]? = some station ∧ station.Serves here.peer cache
  far : ∃ station, mesh.stations[there.station]? = some station ∧ station.Serves there.peer cache'
  distinct : here.station ≠ there.station
  link : mesh.otherEnd? here = some there
  back : mesh.otherEnd? there = some here

variable {mesh : Mesh} {here there : LinkEnd} {cache cache' grown : Cache}
  {reaction : Station → Station} {left : List Flight}

theorem Joins.symm (h : mesh.Joins here there cache cache') : mesh.Joins there here cache' cache :=
  ⟨h.drained, h.far, h.near, h.distinct.symm, h.back, h.link⟩

/-- What the station at one end does changes nothing but its cache. -/
theorem Joins.react (h : mesh.Joins here there cache cache') (left : List Flight)
    (houtline : ∀ station, (reaction station).outline = station.outline)
    (hwiring : ∀ station, (reaction station).wiring = station.wiring)
    (hcache : ∀ station, mesh.stations[here.station]? = some station →
      (reaction station).node.engine.cache = grown) :
    (mesh.react here.station reaction left).Joins here there grown cache' := by
  have hlinks : (mesh.react here.station reaction left).otherEnd? = mesh.otherEnd? :=
    otherEnd?_of_outline_eq (outline_react left houtline)
  obtain ⟨station, hstation, hserves⟩ := h.near
  obtain ⟨station', hstation', hserves'⟩ := h.far
  refine ⟨isDrained_react _ _ _ _, ?_, ?_, h.distinct, hlinks ▸ h.link, hlinks ▸ h.back⟩
  · refine ⟨_, getElem?_stations_react.mpr ⟨station, hstation, rfl⟩, ?_⟩
    rw [if_pos rfl]
    exact hserves.of_outline_eq ((outline_takeFromStation ..).trans (houtline station))
      (hwiring station) (hcache station hstation)
  · refine ⟨_, getElem?_stations_react.mpr ⟨station', hstation', rfl⟩, ?_⟩
    rw [if_neg h.distinct]
    exact hserves'.of_outline_eq (outline_takeFromStation ..) rfl hserves'.cache_eq

/-- A frame for the peer at one end is in flight to the other. -/
theorem Joins.inFlight_of_sends_one (h : mesh.Joins here there cache cache') {station : Station}
    (hstation : mesh.stations[here.station]? = some station) {frame : Bytes}
    (hsends : station.node.Sends (reaction station).node
      fun id => if some here.peer = some id then [frame] else []) :
    (mesh.react here.station reaction left).inFlight = left ++ [⟨there, frame⟩] := by
  obtain ⟨station', hstation', hserves⟩ := h.near
  obtain rfl : station = station' := by rwa [hstation, Option.some.injEq] at hstation'
  rw [inFlight_react h.drained hstation, flights_of_sends_one
    (h.drained here.station station hstation) hserves.nodup hserves.mem h.link hsends]

/-- Nothing more is in flight after a station that sends nothing. -/
theorem Joins.inFlight_of_peers_eq (h : mesh.Joins here there cache cache') {station : Station}
    (hstation : mesh.stations[here.station]? = some station)
    (hpeers : (reaction station).node.peers = station.node.peers) :
    (mesh.react here.station reaction left).inFlight = left := by
  refine inFlight_react_of_peers_eq h.drained fun station' hstation' => ?_
  obtain rfl : station = station' := by rwa [hstation, Option.some.injEq] at hstation'
  exact hpeers

/-! ## One exchange -/

/-- The peer at one end of a link connects: the station there asks, the station at the other end
answers, and the first one merges what it is offered. All else in flight waits meanwhile. -/
def exchange (mesh : Mesh) (here : LinkEnd) : Mesh :=
  let asked := (mesh.updateStation here.station (·.peerConnected here.peer)).launch
  (asked.step mesh.inFlight.length).step mesh.inFlight.length

/-- The last of the flights is delivered. -/
theorem step_last {flights : List Flight} {flight : Flight}
    (h : mesh.inFlight = flights ++ [flight]) :
    mesh.step flights.length = mesh.react flight.target.station
      (·.handle flight.data (some flight.target.peer)) flights := by
  have hlast : mesh.inFlight[flights.length]? = some flight := by
    rw [h, List.getElem?_concat_length]
  rw [step_eq_react hlast, h, List.eraseIdx_append_of_length_le (Nat.le_refl _), Nat.sub_self,
    List.eraseIdx_cons_zero, List.append_nil]

/-- **One exchange** makes the cache of the asking station grow by the keys that it is offered, and
changes nothing else about the two caches, or in flight. -/
theorem Joins.exchange (h : mesh.Joins here there cache cache') (hsound : cache.IsSound)
    (hkept : ∀ message ∈ cache'.entries, message.isNoCache = false)
    (hroom : cache.HasRoomFor (Reconciliation.offeredKeys cache.keys cache'.entries)) :
    ∃ grown, (mesh.exchange here).Joins here there grown cache' ∧
      (mesh.exchange here).inFlight = mesh.inFlight ∧
      cache.Grew grown (Reconciliation.offeredKeys cache.keys cache'.entries) := by
  obtain ⟨asking, hasking, hserves⟩ := h.near
  obtain ⟨query, hquery, hsent, hengine, -⟩ := hserves.reconciles.asks here.peer
  rw [hserves.cache_eq] at hquery
  -- The query comes into flight behind all that was there.
  generalize hasked : mesh.react here.station (·.peerConnected here.peer) mesh.inFlight = asked
  have hjoins : asked.Joins here there cache cache' := by
    rw [← hasked]
    refine h.react _ (fun _ => Station.outline_peerConnected ..)
      (fun _ => Station.wiring_peerConnected ..) fun station hstation => ?_
    obtain rfl : asking = station := by rwa [hasking, Option.some.injEq] at hstation
    rw [hengine, hserves.cache_eq]
  have hflights : asked.inFlight = mesh.inFlight ++ [⟨there, query⟩] := by
    rw [← hasked]
    exact h.inFlight_of_sends_one hasking hsent
  obtain ⟨answering, hanswering, hserves'⟩ := hjoins.far
  obtain ⟨answer, hanswer, hsent', hengine', -⟩ := hserves'.reconciles.answers hquery there.peer
  have hcached : answering.node.cached = cache'.entries :=
    congrArg Cache.entries hserves'.cache_eq
  rw [hcached] at hanswer
  -- Its delivery puts the answer where it was.
  generalize hanswered : asked.react there.station (·.handle query (some there.peer))
    mesh.inFlight = answered
  have hjoins' : answered.Joins here there cache cache' := by
    rw [← hanswered]
    refine (hjoins.symm.react _ (fun _ => Station.outline_handle ..)
      (fun _ => Station.wiring_handle ..) fun station hstation => ?_).symm
    obtain rfl : answering = station := by rwa [hanswering, Option.some.injEq] at hstation
    rw [hengine', hserves'.cache_eq]
  have hflights' : answered.inFlight = mesh.inFlight ++ [⟨here, answer⟩] := by
    rw [← hanswered]
    exact hjoins.symm.inFlight_of_sends_one hanswering hsent'
  -- Nothing takes the place of the answer.
  obtain ⟨merging, hmerging, hserves⟩ := hjoins'.near
  obtain ⟨hpeers, hgrew⟩ := hserves.reconciles.merges hanswer (hserves.cache_eq ▸ hsound) hkept
    (by rwa [hserves.cache_eq]) here.peer
  rw [hserves.cache_eq] at hgrew
  have hexchange : mesh.exchange here =
      answered.react here.station (·.handle answer (some here.peer)) mesh.inFlight := by
    show (Mesh.step (mesh.react here.station (·.peerConnected here.peer) mesh.inFlight)
      mesh.inFlight.length).step mesh.inFlight.length = _
    rw [hasked, step_last hflights, hanswered, step_last hflights']
  rw [hexchange]
  refine ⟨_, hjoins'.react _ (fun _ => Station.outline_handle ..)
    (fun _ => Station.wiring_handle ..) fun station hstation => ?_,
    hjoins'.inFlight_of_peers_eq hmerging hpeers, hgrew⟩
  obtain rfl : merging = station := by rwa [hmerging, Option.some.injEq] at hstation
  rfl

end Mesh

end RadioGossip
