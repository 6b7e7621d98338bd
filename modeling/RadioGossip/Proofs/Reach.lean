import RadioGossip.Proofs.FloodCoverage
import RadioGossip.Proofs.HopPlans
import RadioGossip.Proofs.Reception

/-!
# How far a flood gets

A message with any hop budget is spread in a mesh whose stations hold what they hold and have room
for one message more. The state of the flood is told by the routes so far: each of them is that of a
neighbour with one more station, and none is longer than the budget. Every copy on its way was sent
along the route of some station with budget left, and it is for a neighbour of that station. While a
neighbour has no route yet, such a copy is on its way to it.

A delivery changes this state in one of two ways. What is **stale** leaves the routes as they are,
and nothing more comes into flight. A **fresh** copy lengthens its route by one station, which sends
it on. So when nothing is in flight any more, the lengths of the routes are a hop plan.
-/

namespace RadioGossip

/-! ## Hops of a copy -/

namespace Message

variable {message : Message} {data : Bytes} {hops : Nat}

/-- A copy of the message with so many hops behind it. Each of them took one from the budget. -/
def IsAfter (copy message : Message) (hops : Nat) : Prop :=
  copy.isCopyOf message = true ∧ copy.ttl.toNat + hops = message.ttl.toNat

/-- The bytes are a copy of the message with so many hops behind it. -/
def HasCome (message : Message) (hops : Nat) (data : Bytes) : Prop :=
  ∃ copy, decode data = .ok copy ∧ copy.IsAfter message hops

theorem HasCome.hops_eq {hops' : Nat} (h : message.HasCome hops data)
    (h' : message.HasCome hops' data) : hops = hops' := by
  obtain ⟨copy, hdata, -, hbudget⟩ := h
  obtain ⟨copy', hdata', -, hbudget'⟩ := h'
  obtain rfl := Except.ok.inj (hdata.symm.trans hdata')
  omega

/-- A receipt is no copy. -/
theorem not_hasCome_of_isAnsweredBy (hkept : message.isNoCache = false)
    (h : message.IsAnsweredBy data) : ¬ message.HasCome hops data := by
  rintro ⟨copy, hdata, hcopy, -⟩
  obtain ⟨-, receipt, hdata', hreceipt⟩ := h
  obtain rfl := Except.ok.inj (hdata.symm.trans hdata')
  rw [isCopyOf_eq_false_of_isReceipt hreceipt hkept] at hcopy
  cases hcopy

end Message

namespace Mesh

variable {base mesh : Mesh} {message : Message} {routes routes' : Routes} {origin index : Nat}

theorem isAfter_copyAlong {route : List Nat} (h : route.length ≤ message.ttl.toNat) :
    (base.copyAlong message route).IsAfter message route.length := by
  refine ⟨base.isCopyOf_copyAlong message route, ?_⟩
  rw [copyAlong, Message.toNat_ttl_along, List.length_map]
  omega

/-! ## Open meshes -/

/-- The mesh is open to a message: its stations have room for it, and nobody has it yet. -/
structure OpenTo (mesh : Mesh) (message : Message) : Prop where
  admits : ∀ station ∈ mesh.stations, station.Admits message
  distinct : (mesh.stations.map fun station => station.node.self.callsign).Nodup
  room : ∀ station ∈ mesh.stations,
    station.node.engine.cache.size < station.node.engine.cache.capacity
  new : ∀ station ∈ mesh.stations, station.node.engine.cache.contains message.key = false
  drained : mesh.IsDrained
  idle : mesh.inFlight = []

theorem OpenTo.isAddressed (h : mesh.OpenTo message) : mesh.IsAddressed :=
  ⟨fun station hstation => (h.admits station hstation).isNamed, h.distinct⟩

/-- A mesh that is ready for a message is open to it. -/
theorem ReadyFor.openTo (h : mesh.ReadyFor message) : mesh.OpenTo message where
  admits := h.admits
  distinct := h.distinct
  room station hstation := by
    have hempty : station.node.engine.cache.entries = [] := h.uncached station hstation
    rw [Cache.size, hempty]
    exact (h.admits station hstation).capacity
  new station hstation := Cache.contains_of_entries_eq_nil (h.uncached station hstation) _
  drained := h.drained
  idle := h.idle

/-! ## Growing routes -/

/-- The routes grow from the origin: its own comes first, and every other one is the route of a
neighbour with one more station. -/
structure GrowsFrom (base : Mesh) (origin : Nat) (routes : Routes) : Prop where
  start : ∀ index route, routes index = some route → routes origin = some [origin]
  parent : ∀ index route, routes index = some route → index = origin ∨
    ∃ before route', routes before = some route' ∧ base.Linked before index ∧
      route = route' ++ [index]

/-- The route along which a station can get its copy next: that of a neighbour, or none at all if it
is the origin. -/
def Continues (base : Mesh) (origin : Nat) (routes : Routes) (index : Nat) (route : List Nat) :
    Prop :=
  (index = origin ∧ route = []) ∨
    ∃ before, routes before = some route ∧ base.Linked before index

theorem GrowsFrom.length_pos (h : base.GrowsFrom origin routes) {route : List Nat}
    (hroute : routes index = some route) : 1 ≤ route.length := by
  rcases h.parent index route hroute with rfl | ⟨before, route', -, -, rfl⟩
  · have hstart := h.start index route hroute
    rw [hroute, Option.some.injEq] at hstart
    exact Nat.le_of_eq (congrArg List.length hstart.symm)
  · simp

theorem GrowsFrom.extend (h : base.GrowsFrom origin routes) {route : List Nat}
    (hnone : routes index = none) (hcontinues : base.Continues origin routes index route) :
    base.GrowsFrom origin (routes.extend index route) where
  start other route' _ := by
    rcases hcontinues with ⟨rfl, rfl⟩ | ⟨before, hbefore, -⟩
    · exact Routes.extend_self routes index []
    · exact Routes.extend_of_none hnone (h.start before route hbefore)
  parent other route' hroute' := by
    rcases Routes.of_extend_eq_some hroute' with ⟨rfl, rfl⟩ | hold
    · refine hcontinues.imp And.left ?_
      rintro ⟨before, hbefore, hlinked⟩
      exact ⟨before, route, Routes.extend_of_none hnone hbefore, hlinked, rfl⟩
    · refine (h.parent other route' hold).imp_right ?_
      rintro ⟨before, route'', hbefore, hlinked⟩
      exact ⟨before, route'', Routes.extend_of_none hnone hbefore, hlinked⟩

/-! ## The state of a flood -/

/-- The frame takes the copy of a station with budget left to one of its neighbours. -/
structure Brings (base : Mesh) (message : Message) (routes : Routes) (here : Nat)
    (route : List Nat) (flight : Flight) : Prop where
  sender : routes here = some route
  budget : route.length < message.ttl.toNat
  linked : base.Linked here flight.target.station
  decode : Message.decode flight.data = .ok (base.copyAlong message route)

/-- A mesh while a message is flooded in it from its origin, with the routes so far. -/
structure Reaching (base : Mesh) (message : Message) (origin : Nat) (routes : Routes)
    (mesh : Mesh) : Prop where
  outline : mesh.outline = base.outline
  drained : mesh.IsDrained
  isFlood : routes.IsFlood base.stations.length
  grows : base.GrowsFrom origin routes
  budget : ∀ index route, routes index = some route → route.length ≤ message.ttl.toNat
  cached : ∀ index station before, mesh.stations[index]? = some station →
    base.stations[index]? = some before → station.node.cached =
      before.node.cached ++ ((routes index).map (base.copyAlong message)).toList
  carried : ∀ flight ∈ mesh.inFlight, (∃ here route, base.Brings message routes here route flight) ∨
    message.IsAnsweredBy flight.data
  relayed : ∀ here route, routes here = some route → route.length < message.ttl.toNat →
    ∀ there < base.stations.length, base.Linked here there → (routes there).isSome = true ∨
      ∃ flight ∈ mesh.inFlight, flight.target.station = there ∧
        base.Brings message routes here route flight

theorem Brings.hasCome {here : Nat} {route : List Nat} {flight : Flight}
    (h : base.Brings message routes here route flight) :
    message.HasCome route.length flight.data :=
  ⟨_, h.decode, isAfter_copyAlong (Nat.le_of_lt h.budget)⟩

theorem Brings.mono {here : Nat} {route : List Nat} {flight : Flight}
    (h : base.Brings message routes here route flight)
    (hkept : ∀ index route, routes index = some route → routes' index = some route) :
    base.Brings message routes' here route flight :=
  { h with sender := hkept here route h.sender }

/-- A station without a route has room for the message, and does not have it. -/
theorem Reaching.room_of_none (h : Reaching base message origin routes mesh)
    (hopen : base.OpenTo message) {station : Station}
    (hstation : mesh.stations[index]? = some station) (hnone : routes index = none) :
    station.node.engine.cache.size < station.node.engine.cache.capacity ∧
      station.node.engine.cache.contains message.key = false := by
  obtain ⟨before, hbefore, houtline⟩ := exists_station_of_outline_eq h.outline hstation
  have hentries : station.node.engine.cache.entries = before.node.engine.cache.entries := by
    have hcached := h.cached index station before hstation hbefore
    rw [hnone, Option.map_none, Option.toList_none, List.append_nil] at hcached
    exact hcached
  have hcapacity : before.node.engine.cache.capacity = station.node.engine.cache.capacity :=
    congrArg (fun outline => outline.node.engine.capacity) houtline
  have hroom := hopen.room before (List.mem_of_getElem? hbefore)
  have hnew := hopen.new before (List.mem_of_getElem? hbefore)
  rw [Cache.size, ← hentries, hcapacity] at hroom
  rw [Cache.contains, ← hentries] at hnew
  exact ⟨hroom, hnew⟩

/-- A station with a route holds the message. -/
theorem Reaching.contains_of_isSome (h : Reaching base message origin routes mesh)
    {station : Station} (hstation : mesh.stations[index]? = some station)
    (hsome : (routes index).isSome = true) :
    station.node.engine.cache.contains message.key = true := by
  obtain ⟨before, hbefore, -⟩ := exists_station_of_outline_eq h.outline hstation
  obtain ⟨route, hroute⟩ := Option.isSome_iff_exists.mp hsome
  have hcached := h.cached index station before hstation hbefore
  rw [hroute] at hcached
  have hmem : base.copyAlong message route ∈ station.node.engine.cache.entries := by
    rw [show station.node.engine.cache.entries = _ from hcached]
    simp
  rw [← Message.key_of_isCopyOf (base.isCopyOf_copyAlong message route), Cache.contains_iff]
  exact List.mem_map_of_mem hmem

/-! ## One move -/

/-- **A move** in which one station reacts carries the flood on, if what it sends are receipts and
copies that go on along its route, and if every copy that is no longer in flight came to a station
that has a route now. -/
theorem Reaching.react (h : Reaching base message origin routes mesh)
    {reaction : Station → Station} {left sent : List Flight}
    (hflood : routes'.IsFlood base.stations.length) (hgrows : base.GrowsFrom origin routes')
    (hbudget : ∀ other route, routes' other = some route → route.length ≤ message.ttl.toNat)
    (hkept : ∀ other route, routes other = some route → routes' other = some route)
    (hothers : ∀ other, other ≠ index → routes' other = routes other)
    (houtline : ∀ station, (reaction station).outline = station.outline)
    (hcached : ∀ station before, mesh.stations[index]? = some station →
      base.stations[index]? = some before → (reaction station).node.cached =
        before.node.cached ++ ((routes' index).map (base.copyAlong message)).toList)
    (hinFlight : (mesh.react index reaction left).inFlight = left ++ sent)
    (hsent : ∀ flight ∈ sent, (∃ here route, base.Brings message routes' here route flight) ∨
      message.IsAnsweredBy flight.data)
    (hrelayed : routes index = none → ∀ route, routes' index = some route →
      route.length < message.ttl.toNat → ∀ there, base.Linked index there →
      ∃ flight ∈ sent, flight.target.station = there ∧
        base.Brings message routes' index route flight)
    (hleft : ∀ flight ∈ left, flight ∈ mesh.inFlight)
    (harrived : ∀ flight ∈ mesh.inFlight, ∀ hops, message.HasCome hops flight.data →
      flight.target.station < base.stations.length →
      flight ∈ left ∨ (routes' flight.target.station).isSome = true) :
    Reaching base message origin routes' (mesh.react index reaction left) := by
  have houtline' : (mesh.react index reaction left).outline = base.outline :=
    (outline_react left houtline).trans h.outline
  refine ⟨houtline', isDrained_react mesh index reaction left, hflood, hgrows, hbudget, ?_, ?_, ?_⟩
  · intro other station before hstation hbefore
    obtain ⟨station', hstation', rfl⟩ := getElem?_stations_react.mp hstation
    by_cases heq : index = other
    · subst heq
      rw [if_pos rfl]
      exact hcached station' before hstation' hbefore
    · rw [if_neg heq, hothers other (Ne.symm heq)]
      exact h.cached other station' before hstation' hbefore
  · intro flight hflight
    rw [hinFlight] at hflight
    rcases List.mem_append.mp hflight with hold | hnew
    · refine (h.carried flight (hleft flight hold)).imp_left ?_
      rintro ⟨here, route, hbrings⟩
      exact ⟨here, route, hbrings.mono hkept⟩
    · exact hsent flight hnew
  · intro here route hroute hbudget there hthere hlinked
    rw [hinFlight]
    by_cases hnew : routes here = none
    · -- The station that got its route just now sends its copy to this neighbour as well.
      obtain rfl : here = index := by
        by_contra hne
        rw [hothers here hne, hnew] at hroute
        cases hroute
      obtain ⟨flight, hflight, hbrings⟩ := hrelayed hnew route hroute hbudget there hlinked
      exact .inr ⟨flight, List.mem_append_right left hflight, hbrings⟩
    · -- A copy that was on its way still is, or it has arrived.
      obtain ⟨route', hroute'⟩ := Option.ne_none_iff_exists'.mp hnew
      obtain rfl : route = route' := by
        rw [hkept here route' hroute', Option.some.injEq] at hroute
        exact hroute.symm
      rcases h.relayed here route hroute' hbudget there hthere hlinked with
        hreached | ⟨flight, hflight, rfl, hbrings⟩
      · obtain ⟨route', hroute'⟩ := Option.isSome_iff_exists.mp hreached
        exact .inl (Option.isSome_iff_exists.mpr ⟨route', hkept there route' hroute'⟩)
      · refine (harrived flight hflight _ hbrings.hasCome hthere).symm.imp_right fun hleft => ?_
        exact ⟨flight, List.mem_append_left sent hleft, rfl, hbrings.mono hkept⟩

/-- A station that takes nothing and sends nothing leaves the flood as it is. -/
theorem Reaching.quiet (h : Reaching base message origin routes mesh)
    {reaction : Station → Station} {left : List Flight}
    (houtline : ∀ station, (reaction station).outline = station.outline)
    (hreceives : ∀ station, mesh.stations[index]? = some station →
      Station.Receives station (reaction station) none fun _ => [])
    (hleft : ∀ flight ∈ left, flight ∈ mesh.inFlight)
    (harrived : ∀ flight ∈ mesh.inFlight, ∀ hops, message.HasCome hops flight.data →
      flight.target.station < base.stations.length →
      flight ∈ left ∨ (routes flight.target.station).isSome = true) :
    Reaching base message origin routes (mesh.react index reaction left) ∧
      (mesh.react index reaction left).inFlight = left := by
  have hinFlight : (mesh.react index reaction left).inFlight = left := by
    refine inFlight_react_of_peers_eq h.drained fun station hstation => ?_
    rw [(hreceives station hstation).peers]
    simp only [Peer.queueAll_nil, List.map_id']
  refine ⟨h.react h.isFlood h.grows h.budget (fun _ _ => id) (fun _ _ => rfl) houtline ?_
    (hinFlight.trans (List.append_nil left).symm) nofun ?_ hleft harrived,
    hinFlight⟩
  · intro station before hstation hbefore
    rw [(hreceives station hstation).cached, Option.toList_none, List.append_nil]
    exact h.cached index station before hstation hbefore
  · intro hnone route hroute
    rw [hnone] at hroute
    cases hroute

/-- A station that takes a copy gets the route of the copy with itself at the end, and sends the copy
on as far as its budget goes. -/
theorem Reaching.accept (h : Reaching base message origin routes mesh)
    (hopen : base.OpenTo message) (hmessage : message.IsFloodable 1) {station : Station}
    {reaction : Station → Station} {left : List Flight} {frames : PeerId → List Bytes}
    {route : List Nat} (hstation : mesh.stations[index]? = some station)
    (hnone : routes index = none) (hcontinues : base.Continues origin routes index route)
    (hbudget : route.length < message.ttl.toNat)
    (houtline : ∀ station, (reaction station).outline = station.outline)
    (hreceives : Station.Receives station (reaction station)
      (some ((base.copyAlong message route).hop station.callsign)) frames)
    (hforwards : Station.Forwards message
      ((base.copyAlong message route).hop station.callsign) frames)
    (hleft : ∀ flight ∈ left, flight ∈ mesh.inFlight)
    (harrived : ∀ flight ∈ mesh.inFlight, flight ∈ left ∨ flight.target.station = index) :
    Reaching base message origin (routes.extend index route) (mesh.react index reaction left) ∧
      ∃ sent, (mesh.react index reaction left).inFlight = left ++ sent ∧ ∀ flight ∈ sent,
        base.Brings message (routes.extend index route) index (route ++ [index]) flight ∨
          message.IsAnsweredBy flight.data := by
  have hindex := lt_length_of_outline_eq h.outline hstation
  have hself := routes.extend_self index route
  rw [← callsign_of_outline_eq h.outline hstation, ← copyAlong_concat] at hreceives hforwards
  -- The stations of the route have routes themselves.
  obtain ⟨hnodup, hreached⟩ : route.Nodup ∧ ∀ stop ∈ route, (routes stop).isSome = true := by
    rcases hcontinues with ⟨-, rfl⟩ | ⟨before, hbefore, -⟩
    · exact ⟨List.nodup_nil, nofun⟩
    · exact ⟨h.isFlood.nodup before route hbefore, h.isFlood.reached before route hbefore⟩
  have hflood := h.isFlood.extend hindex hnone hnodup hreached
  have hsent := mem_takeFromStation_of_admits h.drained
    (admits_of_outline_eq h.outline hopen.admits hstation) hstation hreceives.peers
    hforwards.length_le
  have hcanonical : (base.copyAlong message (route ++ [index])).IsCanonical :=
    Message.isCanonical_of_isCopyOf (base.isCopyOf_copyAlong message _) hmessage.canonical
  have hlength : (route ++ [index]).length ≤ message.ttl.toNat := by
    rw [List.length_append, List.length_singleton]
    exact hbudget
  have hbrings : ∀ flight ∈ (mesh.takeFromStation index (reaction station)).2,
      base.Brings message (routes.extend index route) index (route ++ [index]) flight ∨
        message.IsAnsweredBy flight.data := by
    intro flight hflight
    obtain ⟨peer, hpeer, htarget, hdata⟩ := (hsent flight).mp hflight
    refine (hforwards.carried peer.id flight.data hdata).imp_left fun hrelay => ?_
    have hspent := (Engine.relayOf_eq_some_iff.mp hrelay).1
    have hlinked : mesh.Linked index flight.target.station :=
      ⟨station, hstation, peer, hpeer, flight.target, htarget, rfl⟩
    refine ⟨hself, ?_, linked_of_outline_eq h.outline hlinked,
      Engine.decode_of_relayOf_eq_some hcanonical hrelay⟩
    exact ttl_copyAlong_ne_zero_iff.mp hspent
  refine ⟨h.react hflood (h.grows.extend hnone hcontinues) ?_
    (fun other route' => Routes.extend_of_none hnone) (fun other hne => Routes.extend_of_ne hne)
    houtline ?_ (inFlight_react h.drained hstation) ?_ ?_ hleft ?_,
    _, inFlight_react h.drained hstation, hbrings⟩
  · intro other route' hroute'
    rcases Routes.of_extend_eq_some hroute' with ⟨-, rfl⟩ | hold
    · exact hlength
    · exact h.budget other route' hold
  · intro station' before hstation' hbefore
    obtain rfl := Option.some.inj (hstation.symm.trans hstation')
    have hcached := h.cached index station before hstation hbefore
    rw [hnone, Option.map_none, Option.toList_none, List.append_nil] at hcached
    rw [hreceives.cached, hcached, hself]
    rfl
  · exact fun flight hflight => (hbrings flight hflight).imp_left fun hbrings => ⟨_, _, hbrings⟩
  · intro _ route' hroute' hspare there hlinked
    obtain rfl := Option.some.inj (hself.symm.trans hroute')
    have hbyte := message.ttl.toNat_lt
    have hfits := hopen.isAddressed.named.fits_copyAlong hmessage (hflood.lt_of_mem hself)
      (show (route ++ [index]).length ≤ 255 by omega)
    obtain ⟨wire, hwire⟩ :=
      Engine.exists_relayOf_eq_some hfits (ttl_copyAlong_ne_zero_iff.mpr hspare)
    obtain ⟨station', hstation', peer, hpeer, target, htarget, rfl⟩ :=
      linked_of_outline_eq h.outline.symm hlinked
    obtain rfl := Option.some.inj (hstation.symm.trans hstation')
    exact ⟨⟨target, wire⟩, (hsent _).mpr ⟨peer, hpeer, htarget, hforwards.relayed wire hwire _⟩,
      rfl, hself, hspare, hlinked, Engine.decode_of_relayOf_eq_some hcanonical hwire⟩
  · intro flight hflight _ _ _
    refine (harrived flight hflight).imp_right fun htarget => ?_
    rw [htarget, hself, Option.isSome_some]

/-! ## One delivery -/

/-- What is delivered brings nothing new: it is a receipt, or its station has a route already, or
there is no such station. -/
def IsStale (base : Mesh) (message : Message) (routes : Routes) (flight : Flight) : Prop :=
  message.IsAnsweredBy flight.data ∨ (routes flight.target.station).isSome = true ∨
    base.stations.length ≤ flight.target.station

/-- A frame in flight is stale, or it brings a copy to a station that has no route yet. -/
theorem Reaching.stale_or_brings (h : Reaching base message origin routes mesh) {flight : Flight}
    (hflight : flight ∈ mesh.inFlight) :
    base.IsStale message routes flight ∨ flight.target.station < base.stations.length ∧
      routes flight.target.station = none ∧
      ∃ here route, base.Brings message routes here route flight := by
  rcases h.carried flight hflight with hbrings | hanswered
  · by_cases hlt : flight.target.station < base.stations.length
    · cases hroute : routes flight.target.station with
      | none => exact .inr ⟨hlt, rfl, hbrings⟩
      | some route => exact .inl (.inr (.inl (by rw [hroute]; rfl)))
    · exact .inl (.inr (.inr (Nat.not_lt.mp hlt)))
  · exact .inl (.inl hanswered)

/-- **What is stale** leaves the flood as it is, with one frame less in flight. -/
theorem Reaching.step_of_isStale (h : Reaching base message origin routes mesh)
    (hkept : message.isNoCache = false) {place : Nat} {flight : Flight}
    (hflight : mesh.inFlight[place]? = some flight) (hstale : base.IsStale message routes flight) :
    Reaching base message origin routes (mesh.step place) ∧
      (mesh.step place).inFlight = mesh.inFlight.eraseIdx place := by
  obtain ⟨hleft, hgone⟩ := mem_eraseIdx_or_eq hflight
  rw [step_eq_react hflight]
  refine h.quiet (fun _ => Station.outline_handle ..) ?_ hleft ?_
  · intro station hstation
    rcases hstale with hanswered | hsome | hout
    · obtain ⟨-, receipt, hdata, hreceipt⟩ := hanswered
      exact Station.receives_of_stale hdata (.inr (.inl hreceipt))
    · rcases h.carried flight (List.mem_of_getElem? hflight) with ⟨here, route, hbrings⟩ |
        ⟨-, receipt, hdata, hreceipt⟩
      · have hcopy := base.isCopyOf_copyAlong message route
        refine Station.receives_of_stale hbrings.decode (.inr (.inr ⟨?_, ?_⟩))
        · rwa [Message.isNoCache_of_isCopyOf hcopy]
        · rw [Message.key_of_isCopyOf hcopy]
          exact h.contains_of_isSome hstation hsome
      · exact Station.receives_of_stale hdata (.inr (.inl hreceipt))
    · exact absurd (lt_length_of_outline_eq h.outline hstation) (Nat.not_lt.mpr hout)
  · intro other hother hops hcome hlt
    refine (hgone other hother).imp_right ?_
    rintro rfl
    rcases hstale with hanswered | hsome | hout
    · exact absurd hcome (Message.not_hasCome_of_isAnsweredBy hkept hanswered)
    · exact hsome
    · exact absurd hlt (Nat.not_lt.mpr hout)

/-- **A fresh copy** gives its station a route, and what is sent goes on along it. -/
theorem Reaching.step_of_brings (h : Reaching base message origin routes mesh)
    (hopen : base.OpenTo message) (hmessage : message.IsFloodable 1) {place here : Nat}
    {flight : Flight} {route : List Nat} (hflight : mesh.inFlight[place]? = some flight)
    (hlt : flight.target.station < base.stations.length)
    (hnone : routes flight.target.station = none)
    (hbrings : base.Brings message routes here route flight) :
    Reaching base message origin (routes.extend flight.target.station route) (mesh.step place) ∧
      ∃ sent, (mesh.step place).inFlight = mesh.inFlight.eraseIdx place ++ sent ∧
        ∀ other ∈ sent, base.Brings message (routes.extend flight.target.station route)
            flight.target.station (route ++ [flight.target.station]) other ∨
          message.IsAnsweredBy other.data := by
  obtain ⟨hleft, hgone⟩ := mem_eraseIdx_or_eq hflight
  have hlength := length_stations_of_outline_eq h.outline
  obtain ⟨station, hstation⟩ : ∃ station, mesh.stations[flight.target.station]? = some station :=
    ⟨_, List.getElem?_eq_getElem (hlength ▸ hlt)⟩
  obtain ⟨hroom, hnew⟩ := h.room_of_none hopen hstation hnone
  have hloop := hopen.isAddressed.not_contains_of_none h.outline hmessage.path h.isFlood
    hbrings.sender hstation hnone
  have hadmits := admits_of_outline_eq h.outline hopen.admits hstation
  obtain ⟨frames, hreceives, hforwards⟩ := Station.receives_of_fresh hmessage.kept hroom hnew
    hadmits.ignores hbrings.decode (base.isCopyOf_copyAlong message route) hloop
  rw [step_eq_react hflight]
  refine h.accept hopen hmessage hstation hnone (.inr ⟨here, hbrings.sender, hbrings.linked⟩)
    hbrings.budget (fun _ => Station.outline_handle ..) hreceives hforwards hleft ?_
  intro other hother
  refine (hgone other hother).imp_right ?_
  rintro rfl
  rfl

/-! ## The beginning -/

/-- Before the flood no station has a route. -/
theorem OpenTo.reaching (hopen : mesh.OpenTo message) (origin : Nat) :
    Reaching mesh message origin (fun _ => none) mesh where
  outline := rfl
  drained := hopen.drained
  isFlood := ⟨nofun, nofun, nofun⟩
  grows := ⟨nofun, nofun⟩
  budget := nofun
  cached index station before hstation hbefore := by
    obtain rfl := Option.some.inj (hstation.symm.trans hbefore)
    exact (List.append_nil _).symm
  carried flight hflight := by
    rw [hopen.idle] at hflight
    cases hflight
  relayed := nofun

/-- The flood begins with the route of the origin. -/
theorem OpenTo.reaching_spread (hopen : mesh.OpenTo message) (hmessage : message.IsFloodable 1)
    {station : Station} (horigin : mesh.stations[origin]? = some station)
    (hwrite : station.node.engine.readOnly = false) :
    (mesh.spread origin message).2 = .ok () ∧
      Reaching mesh message origin (Routes.extend (fun _ => none) origin [])
        (mesh.spread origin message).1.launch := by
  have h := hopen.reaching origin
  have hmem := List.mem_of_getElem? horigin
  obtain ⟨hloop, hfits⟩ := hopen.isAddressed.named.fits_hop hmessage hmem
  obtain ⟨hok, frames, hreceives, hforwards⟩ := Station.receives_of_spread hmessage.kept
    (hopen.room station hmem) (hopen.new station hmem) (hopen.admits station hmem).ignores hwrite
    hloop hfits
  refine ⟨by simpa only [Mesh.spread, horigin] using hok, ?_⟩
  rw [launch_spread_eq_react horigin]
  exact (h.accept hopen hmessage horigin rfl (.inl ⟨rfl, rfl⟩) hmessage.budget
    (fun _ => Station.outline_spread ..) hreceives hforwards (fun _ => id) fun _ => .inl).1

end Mesh

end RadioGossip
