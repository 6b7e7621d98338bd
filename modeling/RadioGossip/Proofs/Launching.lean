import Mathlib.Logic.Basic
import RadioGossip.Proofs.Outlines

/-!
# Frames in flight

One move of a mesh: a station **reacts** to something, and whatever its linked peers then hold is put
in flight. If nothing was held before, the only frames that come into flight are those of this
station, and afterwards nothing is held again: the mesh is **drained** before and after every move.

Delivering one of the frames in flight is such a move, and so is spreading a message. What comes into
flight then is what the decisions of the station have for each of its peers.
-/

namespace RadioGossip

namespace Mesh

/-! ## Launching -/

/-- No linked peer holds a frame. -/
def IsDrained (mesh : Mesh) : Prop :=
  ∀ index station, mesh.stations[index]? = some station → ∀ peer ∈ station.node.peers,
    (mesh.otherEnd? ⟨index, peer.id⟩).isSome = true → peer.outbox.contents = []

theorem mem_takeFromStation {mesh : Mesh} {index : Nat} {station : Station} {flight : Flight} :
    flight ∈ (mesh.takeFromStation index station).2 ↔
      ∃ peer ∈ station.node.peers, mesh.otherEnd? ⟨index, peer.id⟩ = some flight.target ∧
        flight.data ∈ peer.outbox.contents := by
  simp only [takeFromStation, List.mem_flatMap, List.mem_map, exists_exists_and_eq_and]
  refine exists_congr fun peer => and_congr_right fun _ => ?_
  simp only [takeFrom]
  cases mesh.otherEnd? ⟨index, peer.id⟩ with
  | none => simp
  | some target =>
    obtain ⟨target', data⟩ := flight
    simp only [Outbox.takeAll, List.mem_map, Flight.mk.injEq, Option.some.injEq]
    constructor
    · rintro ⟨data', hdata, rfl, rfl⟩
      exact ⟨rfl, hdata⟩
    · rintro ⟨rfl, hdata⟩
      exact ⟨data, hdata, rfl, rfl⟩

theorem getElem?_stations_launch (mesh : Mesh) (index : Nat) :
    mesh.launch.stations[index]? =
      (mesh.stations[index]?).map fun station => (mesh.takeFromStation index station).1 := by
  simp only [launch, List.getElem?_map, List.getElem?_mapIdx, Option.map_map]
  rfl

theorem mem_inFlight_launch {mesh : Mesh} {flight : Flight} :
    flight ∈ mesh.launch.inFlight ↔ flight ∈ mesh.inFlight ∨
      ∃ index station, mesh.stations[index]? = some station ∧
        flight ∈ (mesh.takeFromStation index station).2 := by
  simp only [launch, List.mem_append, List.mem_flatMap]
  refine or_congr_right ⟨?_, ?_⟩
  · rintro ⟨taken, htaken, hflight⟩
    obtain ⟨index, hindex⟩ := List.mem_iff_getElem?.mp htaken
    rw [List.getElem?_mapIdx] at hindex
    obtain ⟨station, hstation, rfl⟩ := Option.map_eq_some_iff.mp hindex
    exact ⟨index, station, hstation, hflight⟩
  · rintro ⟨index, station, hstation, hflight⟩
    refine ⟨mesh.takeFromStation index station, List.mem_iff_getElem?.mpr ⟨index, ?_⟩, hflight⟩
    rw [List.getElem?_mapIdx, hstation]
    rfl

theorem isDrained_launch (mesh : Mesh) : mesh.launch.IsDrained := by
  intro index station hstation peer hpeer hlinked
  rw [getElem?_stations_launch] at hstation
  obtain ⟨before, -, rfl⟩ := Option.map_eq_some_iff.mp hstation
  simp only [takeFromStation, List.map_map, List.mem_map, Function.comp_apply] at hpeer
  obtain ⟨peer', -, rfl⟩ := hpeer
  have hlinks : mesh.launch.otherEnd? = mesh.otherEnd? :=
    otherEnd?_of_outline_eq (outline_launch mesh)
  rw [hlinks] at hlinked
  simp only [takeFrom] at hlinked ⊢
  cases h : mesh.otherEnd? ⟨index, peer'.id⟩ with
  | none => simp [h] at hlinked
  | some target => rfl

theorem takeFromStation_of_isDrained {mesh : Mesh} (h : mesh.IsDrained) {index : Nat}
    {station : Station} (hstation : mesh.stations[index]? = some station) :
    (mesh.takeFromStation index station).2 = [] := by
  refine List.eq_nil_iff_forall_not_mem.mpr fun flight hflight => ?_
  obtain ⟨peer, hpeer, htarget, hdata⟩ := mem_takeFromStation.mp hflight
  rw [h index station hstation peer hpeer (Option.isSome_iff_exists.mpr ⟨_, htarget⟩)] at hdata
  cases hdata

/-- From a drained mesh nothing more is launched. -/
theorem inFlight_launch_of_isDrained {mesh : Mesh} (h : mesh.IsDrained) :
    mesh.launch.inFlight = mesh.inFlight := by
  have hnone : (mesh.stations.mapIdx mesh.takeFromStation).flatMap Prod.snd = [] := by
    refine List.flatMap_eq_nil_iff.mpr fun taken htaken => ?_
    obtain ⟨index, hindex⟩ := List.mem_iff_getElem?.mp htaken
    rw [List.getElem?_mapIdx] at hindex
    obtain ⟨station, hstation, rfl⟩ := Option.map_eq_some_iff.mp hindex
    exact takeFromStation_of_isDrained h hstation
  rw [launch, hnone, List.append_nil]

/-! ## Moves -/

/-- A station reacts, some frames are left in flight, and those that it queued join them. -/
def react (mesh : Mesh) (index : Nat) (reaction : Station → Station) (left : List Flight) : Mesh :=
  { mesh.updateStation index reaction with inFlight := left }.launch

theorem step_eq_react {mesh : Mesh} {index : Nat} {flight : Flight}
    (h : mesh.inFlight[index]? = some flight) :
    mesh.step index = mesh.react flight.target.station
      (·.handle flight.data (some flight.target.peer)) (mesh.inFlight.eraseIdx index) := by
  simp only [step, h]
  rfl

/-- There is nothing to deliver, so nothing happens. -/
theorem step_eq_self {mesh : Mesh} {index : Nat} (h : mesh.inFlight[index]? = none) :
    mesh.step index = mesh := by
  simp only [step, h]

/-- The frames that a delivery leaves in flight were in flight, and all but the one are left. -/
theorem mem_eraseIdx_or_eq {mesh : Mesh} {place : Nat} {flight : Flight}
    (hflight : mesh.inFlight[place]? = some flight) :
    (∀ other ∈ mesh.inFlight.eraseIdx place, other ∈ mesh.inFlight) ∧
      ∀ other ∈ mesh.inFlight, other ∈ mesh.inFlight.eraseIdx place ∨ other = flight := by
  refine ⟨fun other => List.mem_of_mem_eraseIdx, fun other hother => ?_⟩
  -- The same frame may be in flight twice, so these do not exclude each other.
  obtain ⟨place', hplace'⟩ := List.mem_iff_getElem?.mp hother
  by_cases heq : place' = place
  · rw [heq, hflight, Option.some.injEq] at hplace'
    exact .inr hplace'.symm
  · exact .inl (List.mem_eraseIdx_iff_getElem?.mpr ⟨place', heq, hplace'⟩)

theorem launch_spread_eq_react {mesh : Mesh} {index : Nat} {station : Station} {message : Message}
    (h : mesh.stations[index]? = some station) :
    (mesh.spread index message).1.launch =
      mesh.react index (fun station => (station.spread message).1) mesh.inFlight := by
  have hset : mesh.stations.set index (station.spread message).1 =
      mesh.stations.modify index fun station => (station.spread message).1 := by
    refine List.ext_getElem? fun other => ?_
    rw [List.getElem?_set, List.getElem?_modify]
    by_cases heq : index = other
    · subst heq
      obtain ⟨hlt, hget⟩ := List.getElem?_eq_some_iff.mp h
      simp [hlt, hget]
    · cases mesh.stations[other]? <;> simp [heq]
  simp only [spread, h, react, updateStation, hset]

/-- Delivers frames in flight one after the other, chosen by their indices. -/
def run (mesh : Mesh) (order : List Nat) : Mesh := order.foldl step mesh

theorem isDrained_react (mesh : Mesh) (index : Nat) (reaction : Station → Station)
    (left : List Flight) : (mesh.react index reaction left).IsDrained :=
  isDrained_launch _

theorem outline_react {mesh : Mesh} {index : Nat} {reaction : Station → Station}
    (left : List Flight) (h : ∀ station, (reaction station).outline = station.outline) :
    (mesh.react index reaction left).outline = mesh.outline := by
  rw [react, outline_launch]
  exact outline_updateStation mesh index h

theorem getElem?_stations_react {mesh : Mesh} {index other : Nat} {reaction : Station → Station}
    {left : List Flight} {station : Station} :
    (mesh.react index reaction left).stations[other]? = some station ↔
      ∃ before, mesh.stations[other]? = some before ∧ station =
        (mesh.takeFromStation other (if index = other then reaction before else before)).1 := by
  rw [react, getElem?_stations_launch]
  simp only [updateStation, List.getElem?_modify]
  cases mesh.stations[other]? with
  | none => simp
  | some before =>
    simp only [Option.map_some, Option.map_eq_map, Option.some.injEq, exists_eq_left']
    exact eq_comm

/-- **What comes into flight** when a station of a drained mesh reacts is what that station then
holds. -/
theorem mem_inFlight_react {mesh : Mesh} (hdrained : mesh.IsDrained) {index : Nat}
    {reaction : Station → Station} {left : List Flight} {flight : Flight} :
    flight ∈ (mesh.react index reaction left).inFlight ↔ flight ∈ left ∨
      ∃ station, mesh.stations[index]? = some station ∧
        flight ∈ (mesh.takeFromStation index (reaction station)).2 := by
  rw [react, mem_inFlight_launch]
  refine or_congr_right ⟨?_, ?_⟩
  · rintro ⟨other, station, hstation, hflight⟩
    simp only [updateStation, List.getElem?_modify, Option.map_eq_map,
      Option.map_eq_some_iff] at hstation
    obtain ⟨before, hbefore, rfl⟩ := hstation
    by_cases heq : index = other
    · subst heq
      rw [if_pos rfl] at hflight
      exact ⟨before, hbefore, hflight⟩
    · -- Nothing was held for the links of the other stations.
      have hnone : (mesh.takeFromStation other before).2 = [] :=
        takeFromStation_of_isDrained hdrained hbefore
      rw [if_neg heq] at hflight
      exact absurd (hnone ▸ hflight) List.not_mem_nil
  · rintro ⟨station, hstation, hflight⟩
    refine ⟨index, reaction station, ?_, hflight⟩
    simp [updateStation, hstation]

/-- **What comes into flight** when a station of a drained mesh reacts stands behind the rest. -/
theorem inFlight_react {mesh : Mesh} (hdrained : mesh.IsDrained) {index : Nat} {station : Station}
    {reaction : Station → Station} {left : List Flight}
    (hstation : mesh.stations[index]? = some station) :
    (mesh.react index reaction left).inFlight =
      left ++ (mesh.takeFromStation index (reaction station)).2 := by
  have hflights : ∀ (stations : List Station) (index : Nat)
      (take : Nat → Station → Station × List Flight), stations[index]? = some station →
      (∀ other station', stations[other]? = some station' → (take other station').2 = []) →
      ((stations.modify index reaction).mapIdx take).flatMap Prod.snd =
        (take index (reaction station)).2 := by
    intro stations
    induction stations with
    | nil => intro index take hnone; cases hnone
    | cons first stations ih =>
      intro index take hindex hquiet
      cases index with
      | zero =>
        obtain rfl := Option.some.inj hindex
        have hrest : (stations.mapIdx fun other => take (other + 1)).flatMap Prod.snd = [] := by
          refine List.flatMap_eq_nil_iff.mpr fun taken htaken => ?_
          obtain ⟨other, hother⟩ := List.mem_iff_getElem?.mp htaken
          rw [List.getElem?_mapIdx] at hother
          obtain ⟨station', hstation', rfl⟩ := Option.map_eq_some_iff.mp hother
          exact hquiet (other + 1) station' hstation'
        rw [List.modify_zero_cons, List.mapIdx_cons, List.flatMap_cons, hrest, List.append_nil]
      | succ index =>
        have hrest :=
          ih index (fun other => take (other + 1)) hindex fun other => hquiet (other + 1)
        rw [List.modify_succ_cons, List.mapIdx_cons, List.flatMap_cons, hquiet 0 first rfl,
          List.nil_append]
        exact hrest
  have hquiet : ∀ other station', mesh.stations[other]? = some station' →
      (mesh.takeFromStation other station').2 = [] := fun other station' hstation' =>
    takeFromStation_of_isDrained hdrained hstation'
  rw [react, launch]
  exact congrArg (left ++ ·) (hflights mesh.stations index mesh.takeFromStation hstation hquiet)

/-- Nothing comes into flight when a station of a drained mesh reacts and sends nothing. -/
theorem inFlight_react_of_peers_eq {mesh : Mesh} (hdrained : mesh.IsDrained) {index : Nat}
    {reaction : Station → Station} {left : List Flight}
    (hpeers : ∀ station, mesh.stations[index]? = some station →
      (reaction station).node.peers = station.node.peers) :
    (mesh.react index reaction left).inFlight = left := by
  cases hstation : mesh.stations[index]? with
  | none =>
    have hstations : mesh.stations.modify index reaction = mesh.stations := by
      refine List.ext_getElem? fun other => ?_
      rw [List.getElem?_modify]
      by_cases heq : index = other
      · rw [← heq, hstation]
        rfl
      · simp [heq]
    have hleft : IsDrained { mesh with inFlight := left } := hdrained
    rw [react, updateStation, hstations]
    exact inFlight_launch_of_isDrained hleft
  | some station =>
    have hquiet := takeFromStation_of_isDrained hdrained hstation
    rw [takeFromStation, ← hpeers station hstation] at hquiet
    rw [inFlight_react hdrained hstation, takeFromStation, hquiet, List.append_nil]

/-- Peers that held nothing, and that have room for what they get, send just that. -/
theorem mem_takeFromStation_queueAll {mesh : Mesh} {index : Nat} {station : Station}
    {peers : List Peer} {frames : PeerId → List Bytes} {flight : Flight}
    (hpeers : station.node.peers = peers.map fun peer => peer.queueAll (frames peer.id))
    (hroom : ∀ peer ∈ peers, (mesh.otherEnd? ⟨index, peer.id⟩).isSome = true →
      peer.outbox.contents = [] ∧ peer.outbox.HasRoom (frames peer.id).length) :
    flight ∈ (mesh.takeFromStation index station).2 ↔
      ∃ peer ∈ peers, mesh.otherEnd? ⟨index, peer.id⟩ = some flight.target ∧
        flight.data ∈ frames peer.id := by
  rw [mem_takeFromStation, hpeers]
  simp only [List.mem_map, exists_exists_and_eq_and, Peer.queueAll_eq]
  refine exists_congr fun peer => and_congr_right fun hpeer => and_congr_right fun htarget => ?_
  obtain ⟨hempty, hfits⟩ := hroom peer hpeer (Option.isSome_iff_exists.mpr ⟨_, htarget⟩)
  rw [Outbox.contents_pushAll hfits, hempty, List.nil_append]

end Mesh

end RadioGossip
