import Mathlib.Data.List.Perm.Subperm
import Mathlib.Logic.Function.Basic
import RadioGossip.Proofs.Readiness

/-!
# A flood reaches everyone, once

One station of a mesh that is ready spreads a message, and the frames in flight are delivered one
after the other, in any order. Once none is left, every station has the message, delivered and cached
just once.

The state of a flood is told by the **routes** that the copies of the stations came along. Along a
run they only become more: a station keeps the copy that it took first, over whatever detour this
came. While a station that has a copy with budget left waits for a neighbour to have one too, a copy
is on its way there. So in the end the stations with a copy are closed under links, with one
exception: stations whose copy came with its budget spent. But the budget was enough for a route
through all stations, and a route goes through none of them twice; where the budget ran out, the
route tells that everyone has a copy already.
-/

namespace RadioGossip

/-! ## Routes -/

/-- For each station that has a copy, the stations that this came through, itself the last. -/
abbrev Routes : Type := Nat → Option (List Nat)

namespace Routes

/-- The routes of a flood among so many stations. -/
structure IsFlood (routes : Routes) (count : Nat) : Prop where
  lt : ∀ index route, routes index = some route → index < count
  nodup : ∀ index route, routes index = some route → route.Nodup
  reached : ∀ index route, routes index = some route → ∀ stop ∈ route, (routes stop).isSome = true

/-- The routes after a station got a copy at the end of a route. -/
def extend (routes : Routes) (index : Nat) (route : List Nat) : Routes :=
  Function.update routes index (some (route ++ [index]))

variable {routes : Routes} {count index : Nat} {route : List Nat}

theorem extend_self (routes : Routes) (index : Nat) (route : List Nat) :
    routes.extend index route index = some (route ++ [index]) :=
  Function.update_self ..

theorem extend_of_ne {other : Nat} (h : other ≠ index) :
    routes.extend index route other = routes other :=
  Function.update_of_ne h ..

/-- A route that is there stays as it is when a station without one gets its own. -/
theorem extend_of_none (hnone : routes index = none) {other : Nat} {route' : List Nat}
    (h : routes other = some route') : routes.extend index route other = some route' := by
  have hne : other ≠ index := by
    rintro rfl
    rw [hnone] at h
    cases h
  rw [extend_of_ne hne, h]

/-- A route is the new one, or it was there before. -/
theorem of_extend_eq_some {other : Nat} {route' : List Nat}
    (h : routes.extend index route other = some route') :
    (other = index ∧ route' = route ++ [index]) ∨ routes other = some route' := by
  by_cases heq : other = index
  · rw [heq, extend_self, Option.some.injEq] at h
    exact .inl ⟨heq, h.symm⟩
  · rw [extend_of_ne heq] at h
    exact .inr h

theorem isSome_extend {other : Nat} (h : (routes other).isSome = true) :
    (routes.extend index route other).isSome = true := by
  by_cases heq : other = index
  · rw [heq, extend_self, Option.isSome_some]
  · rwa [extend_of_ne heq]

theorem IsFlood.lt_of_mem (h : routes.IsFlood count) (hroute : routes index = some route) :
    ∀ stop ∈ route, stop < count := by
  intro stop hstop
  obtain ⟨route', hroute'⟩ := Option.isSome_iff_exists.mp (h.reached index route hroute stop hstop)
  exact h.lt stop route' hroute'

/-- A route goes through each station at most once. -/
theorem IsFlood.subperm (h : routes.IsFlood count) (hroute : routes index = some route) :
    route.Subperm (List.range count) :=
  List.subperm_of_subset (h.nodup index route hroute) fun stop hstop =>
    List.mem_range.mpr (h.lt_of_mem hroute stop hstop)

theorem IsFlood.length_le (h : routes.IsFlood count) (hroute : routes index = some route) :
    route.length ≤ count := by
  have hlength := (h.subperm hroute).length_le
  rwa [List.length_range] at hlength

/-- A route that is as long as there are stations went through all of them. -/
theorem IsFlood.reached_of_le_length (h : routes.IsFlood count) (hroute : routes index = some route)
    (hlength : count ≤ route.length) {other : Nat} (hother : other < count) :
    (routes other).isSome = true := by
  have hperm := (h.subperm hroute).perm_of_length_le (by rwa [List.length_range])
  exact h.reached index route hroute other (hperm.mem_iff.mpr (List.mem_range.mpr hother))

/-- A route among stations that have one does not name a station that has none. -/
theorem not_mem_of_none (hnone : routes index = none)
    (hreached : ∀ stop ∈ route, (routes stop).isSome = true) : index ∉ route := by
  intro hmem
  have hsome := hreached index hmem
  rw [hnone] at hsome
  cases hsome

/-- One more station, which had no route yet. -/
theorem IsFlood.extend (h : routes.IsFlood count) (hindex : index < count)
    (hnone : routes index = none) (hnodup : route.Nodup)
    (hreached : ∀ stop ∈ route, (routes stop).isSome = true) :
    (routes.extend index route).IsFlood count where
  lt other route' hroute' := by
    rcases of_extend_eq_some hroute' with ⟨rfl, -⟩ | hold
    · exact hindex
    · exact h.lt other route' hold
  nodup other route' hroute' := by
    rcases of_extend_eq_some hroute' with ⟨-, rfl⟩ | hold
    · exact (List.perm_append_singleton index route).nodup_iff.mpr
        (List.nodup_cons.mpr ⟨not_mem_of_none hnone hreached, hnodup⟩)
    · exact h.nodup other route' hold
  reached other route' hroute' stop hstop := by
    rcases of_extend_eq_some hroute' with ⟨-, rfl⟩ | hold
    · rcases List.mem_append.mp hstop with hstop | hstop
      · exact isSome_extend (hreached stop hstop)
      · rw [List.mem_singleton.mp hstop, extend_self, Option.isSome_some]
    · exact isSome_extend (h.reached other route' hold stop hstop)

end Routes

/-! ## The state of a flood -/

namespace Mesh

variable {base mesh : Mesh} {message : Message} {routes routes' : Routes}

/-- A copy has not been at a station that has none. -/
theorem IsAddressed.not_contains_of_none (haddressed : base.IsAddressed)
    (houtline : mesh.outline = base.outline) (hpath : message.path = .empty)
    (hflood : routes.IsFlood base.stations.length) {here index : Nat} {route : List Nat}
    {station : Station} (hroute : routes here = some route)
    (hstation : mesh.stations[index]? = some station) (hnone : routes index = none) :
    (base.copyAlong message route).path.contains station.callsign = false := by
  rw [Bool.eq_false_iff, Ne, ← callsign_of_outline_eq houtline hstation,
    haddressed.contains_copyAlong_iff hpath (hflood.lt_of_mem hroute)
      (lt_length_of_outline_eq houtline hstation)]
  -- Had the copy been there, then there would be one there now.
  intro hmem
  have hreached := hflood.reached here route hroute index hmem
  rw [hnone] at hreached
  cases hreached

/-- The bytes are the copy that some station has. -/
def CarriesCopy (base : Mesh) (message : Message) (routes : Routes) (data : Bytes) : Prop :=
  ∃ index route, routes index = some route ∧
    Message.decode data = .ok (base.copyAlong message route)

/-- A mesh while a message is flooded in it, with the routes so far. -/
structure Spreading (base : Mesh) (message : Message) (routes : Routes) (mesh : Mesh) : Prop where
  outline : mesh.outline = base.outline
  drained : mesh.IsDrained
  isFlood : routes.IsFlood base.stations.length
  knows : ∀ (index : Nat) (station : Station), mesh.stations[index]? = some station →
    station.Knows message ((routes index).map (base.copyAlong message))
  carried : ∀ flight ∈ mesh.inFlight,
    base.CarriesCopy message routes flight.data ∨ message.IsAnsweredBy flight.data
  relayed : ∀ here route, routes here = some route → route.length < message.ttl.toNat →
    ∀ there < base.stations.length, base.Linked here there → (routes there).isSome = true ∨
      ∃ flight ∈ mesh.inFlight, flight.target.station = there ∧
        base.CarriesCopy message routes flight.data

/-- A receipt is no copy. -/
theorem not_carriesCopy_of_isAnsweredBy (hkept : message.isNoCache = false) {data : Bytes}
    (h : message.IsAnsweredBy data) : ¬ base.CarriesCopy message routes data := by
  rintro ⟨index, route, -, hcopy⟩
  obtain ⟨-, receipt, hreceipt, hisReceipt⟩ := h
  rw [hcopy, Except.ok.injEq] at hreceipt
  have hnot := Message.isCopyOf_eq_false_of_isReceipt hisReceipt hkept
  rw [← hreceipt, isCopyOf_copyAlong] at hnot
  cases hnot

/-! ## One move -/

/-- What the copies were known to be stays true as the routes become more. -/
theorem CarriesCopy.mono (hkept : ∀ index route, routes index = some route →
    routes' index = some route) {data : Bytes} (h : base.CarriesCopy message routes data) :
    base.CarriesCopy message routes' data := by
  obtain ⟨index, route, hroute, hdata⟩ := h
  exact ⟨index, route, hkept index route hroute, hdata⟩

theorem knows_takeFromStation {station : Station} {copy : Option Message} {index : Nat}
    (h : station.Knows message copy) : (mesh.takeFromStation index station).1.Knows message copy :=
  ⟨h.cached, h.isCopyOf, h.noted, h.others⟩

/-- **A move** in which one station reacts carries the flood on, if the frames that the station sends
are receipts and copies that some station has, and if every copy that is no longer in flight came to
a station that has one now. -/
theorem Spreading.react (h : Spreading base message routes mesh) (hready : base.ReadyFor message)
    {index : Nat} {reaction : Station → Station} {left : List Flight} {frames : PeerId → List Bytes}
    (hflood : routes'.IsFlood base.stations.length)
    (hkept : ∀ other route, routes other = some route → routes' other = some route)
    (hothers : ∀ other, other ≠ index → routes' other = routes other)
    (houtline : ∀ station, (reaction station).outline = station.outline)
    (hresponds : ∀ station, mesh.stations[index]? = some station → Station.Responds message station
      (reaction station) ((routes' index).map (base.copyAlong message)) frames)
    (hlength : ∀ id, (frames id).length ≤ message.framesPerPeer)
    (hcarried : ∀ id, ∀ data ∈ frames id,
      base.CarriesCopy message routes' data ∨ message.IsAnsweredBy data)
    (hrelayed : ∀ route, routes' index = some route → routes index = none →
      route.length < message.ttl.toNat →
      ∀ id, ∃ data ∈ frames id, base.CarriesCopy message routes' data)
    (hleft : ∀ flight ∈ left, flight ∈ mesh.inFlight)
    (harrived : ∀ flight ∈ mesh.inFlight, base.CarriesCopy message routes flight.data →
      flight.target.station < base.stations.length →
      flight ∈ left ∨ (routes' flight.target.station).isSome = true) :
    Spreading base message routes' (mesh.react index reaction left) := by
  have hsent := fun station hstation => mem_takeFromStation_of_admits h.drained
    (admits_of_outline_eq h.outline hready.admits hstation) hstation
    (hresponds station hstation).peers hlength
  have houtline' : (mesh.react index reaction left).outline = base.outline :=
    (outline_react left houtline).trans h.outline
  refine ⟨houtline', isDrained_react mesh index reaction left, hflood, ?_, ?_, ?_⟩
  · intro other station hstation
    obtain ⟨before, hbefore, rfl⟩ := getElem?_stations_react.mp hstation
    refine knows_takeFromStation ?_
    by_cases heq : index = other
    · subst heq
      rw [if_pos rfl]
      exact (hresponds before hbefore).knows
    · rw [if_neg heq, hothers other (Ne.symm heq)]
      exact h.knows other before hbefore
  · intro flight hflight
    rcases (mem_inFlight_react h.drained).mp hflight with hold | ⟨station, hstation, hnew⟩
    · exact (h.carried flight (hleft flight hold)).imp_left (CarriesCopy.mono hkept)
    · obtain ⟨peer, -, -, hdata⟩ := (hsent station hstation flight).mp hnew
      exact hcarried peer.id flight.data hdata
  · intro here route hroute hbudget there hthere hlinked
    by_cases hnew : routes here = none
    · -- The station that got its copy just now relays it to everyone, and so to this neighbour.
      obtain rfl : here = index := by
        by_contra hne
        rw [hothers here hne, hnew] at hroute
        cases hroute
      obtain ⟨station, hstation, peer, hpeer, target, htarget, rfl⟩ :=
        linked_of_outline_eq h.outline.symm hlinked
      obtain ⟨data, hdata, hcopy⟩ := hrelayed route hroute hnew hbudget peer.id
      refine .inr ⟨⟨target, data⟩, ?_, rfl, hcopy⟩
      exact (mem_inFlight_react h.drained).mpr (.inr ⟨station, hstation,
        (hsent station hstation _).mpr ⟨peer, hpeer, htarget, hdata⟩⟩)
    · -- A copy that was on its way still is, or it has arrived.
      obtain ⟨route', hroute'⟩ := Option.ne_none_iff_exists'.mp hnew
      obtain rfl : route' = route := by
        rw [hkept here route' hroute', Option.some.injEq] at hroute
        exact hroute
      rcases h.relayed here route' hroute' hbudget there hthere hlinked with
        hreached | ⟨flight, hflight, rfl, hcopy⟩
      · obtain ⟨route, hroute⟩ := Option.isSome_iff_exists.mp hreached
        exact .inl (Option.isSome_iff_exists.mpr ⟨route, hkept there route hroute⟩)
      · refine (harrived flight hflight hcopy hthere).symm.imp_right fun hleft => ?_
        exact ⟨flight, (mem_inFlight_react h.drained).mpr (.inl hleft), rfl,
          hcopy.mono hkept⟩

/-- A station that keeps quiet carries the flood on as it is. -/
theorem Spreading.quiet (h : Spreading base message routes mesh) (hready : base.ReadyFor message)
    {index : Nat} {reaction : Station → Station} {left : List Flight}
    (houtline : ∀ station, (reaction station).outline = station.outline)
    (hresponds : ∀ station, mesh.stations[index]? = some station → Station.Responds message station
      (reaction station) ((routes index).map (base.copyAlong message)) fun _ => [])
    (hleft : ∀ flight ∈ left, flight ∈ mesh.inFlight)
    (harrived : ∀ flight ∈ mesh.inFlight, base.CarriesCopy message routes flight.data →
      flight.target.station < base.stations.length →
      flight ∈ left ∨ (routes flight.target.station).isSome = true) :
    Spreading base message routes (mesh.react index reaction left) := by
  refine h.react hready h.isFlood (fun _ _ => id) (fun _ _ => rfl) houtline hresponds ?_ ?_ ?_ hleft
    harrived
  · exact fun _ => Nat.zero_le _
  · exact fun _ _ hdata => nomatch hdata
  · intro route hroute hnone
    rw [hnone] at hroute
    cases hroute

/-- A station that takes a copy carries the flood on with one more route. -/
theorem Spreading.accept (h : Spreading base message routes mesh) (hready : base.ReadyFor message)
    (hmessage : message.IsFloodable base.stations.length) {index : Nat} {station : Station}
    {reaction : Station → Station} {left : List Flight} {frames : PeerId → List Bytes}
    {route : List Nat} (hstation : mesh.stations[index]? = some station)
    (hnone : routes index = none) (hnodup : route.Nodup)
    (hreached : ∀ stop ∈ route, (routes stop).isSome = true)
    (houtline : ∀ station, (reaction station).outline = station.outline)
    (hresponds : Station.Responds message station (reaction station)
      (some ((base.copyAlong message route).hop station.callsign)) frames)
    (hpasses : Station.Passes message ((base.copyAlong message route).hop station.callsign) frames)
    (hleft : ∀ flight ∈ left, flight ∈ mesh.inFlight)
    (harrived : ∀ flight ∈ mesh.inFlight, flight ∈ left ∨ flight.target.station = index) :
    Spreading base message (routes.extend index route) (mesh.react index reaction left) := by
  have hflood :=
    h.isFlood.extend (lt_length_of_outline_eq h.outline hstation) hnone hnodup hreached
  have hself := routes.extend_self index route
  rw [← callsign_of_outline_eq h.outline hstation, ← copyAlong_concat] at hresponds hpasses
  have hcarries : ∀ data, Message.decode data = .ok (base.copyAlong message (route ++ [index])) →
      base.CarriesCopy message (routes.extend index route) data :=
    fun data hdata => ⟨index, route ++ [index], hself, hdata⟩
  refine h.react hready hflood (fun other route' => Routes.extend_of_none hnone)
    (fun other hne => Routes.extend_of_ne hne) houtline ?_ hpasses.length_le ?_ ?_ hleft ?_
  · intro station' hstation'
    obtain rfl := Option.some.inj (hstation.symm.trans hstation')
    rwa [hself]
  · exact fun id data hdata => (hpasses.carried id data hdata).imp_left (hcarries data)
  · intro route' hroute' _ hbudget id
    obtain rfl := Option.some.inj (hself.symm.trans hroute')
    -- No station comes twice, so the route is short enough for its path to be written.
    have hlength : (route ++ [index]).length ≤ 255 := by
      have := hflood.length_le hself
      have := hmessage.budget
      have := message.ttl.toNat_lt
      omega
    have hfits := hready.isNamed.fits_copyAlong hmessage (hflood.lt_of_mem hself) hlength
    obtain ⟨data, hdata, hcopy⟩ := hpasses.relayed hfits (ttl_copyAlong_ne_zero_iff.mpr hbudget) id
    exact ⟨data, hdata, hcarries data hcopy⟩
  · intro flight hflight _ _
    refine (harrived flight hflight).imp_right fun htarget => ?_
    rw [htarget, hself, Option.isSome_some]

/-- A copy that comes to a station is accepted if the station has none yet. -/
theorem Spreading.deliver_copy (h : Spreading base message routes mesh)
    (hready : base.ReadyFor message) (hmessage : message.IsFloodable base.stations.length)
    {flight : Flight} {left : List Flight} (hcopy : base.CarriesCopy message routes flight.data)
    (hleft : ∀ other ∈ left, other ∈ mesh.inFlight)
    (hgone : ∀ other ∈ mesh.inFlight, other ∈ left ∨ other = flight) :
    ∃ routes', Spreading base message routes' (mesh.react flight.target.station
        (·.handle flight.data (some flight.target.peer)) left) ∧
      ∀ other, (routes other).isSome = true → (routes' other).isSome = true := by
  obtain ⟨sender, route, hroute, hdata⟩ := hcopy
  have hisCopy := base.isCopyOf_copyAlong message route
  cases hknown : routes flight.target.station with
  | some known =>
    refine ⟨routes, h.quiet hready (fun _ => Station.outline_handle ..) ?_ hleft ?_, fun _ => id⟩
    · intro station hstation
      refine Station.responds_of_quiet (h.knows _ station hstation) hmessage.kept hdata
        (.inr (.inr ⟨hisCopy, ?_⟩))
      rw [hknown]
      rfl
    · intro other hother _ _
      refine (hgone other hother).imp_right ?_
      rintro rfl
      rw [hknown, Option.isSome_some]
  | none =>
    cases hstation : mesh.stations[flight.target.station]? with
    | none =>
      refine ⟨routes, h.quiet hready (fun _ => Station.outline_handle ..) ?_ hleft ?_, fun _ => id⟩
      · intro station hsome
        rw [hstation] at hsome
        cases hsome
      · intro other hother _ htarget
        refine (hgone other hother).imp_right ?_
        rintro rfl
        rw [← length_stations_of_outline_eq h.outline] at htarget
        exact absurd htarget (Nat.not_lt.mpr (List.getElem?_eq_none_iff.mp hstation))
    | some station =>
      have hadmits := admits_of_outline_eq h.outline hready.admits hstation
      have hknows := h.knows _ station hstation
      rw [hknown] at hknows
      have hloop := hready.isAddressed.not_contains_of_none h.outline hmessage.path h.isFlood hroute
        hstation hknown
      obtain ⟨frames, hresponds, hpasses⟩ := Station.responds_of_fresh hknows hmessage.kept
        hmessage.canonical hadmits.capacity hadmits.ignores hdata hisCopy hloop
      refine ⟨_, h.accept hready hmessage hstation hknown (h.isFlood.nodup sender route hroute)
        (h.isFlood.reached sender route hroute) (fun _ => Station.outline_handle ..) hresponds hpasses
        hleft ?_, fun other => Routes.isSome_extend⟩
      intro other hother
      refine (hgone other hother).imp_right ?_
      rintro rfl
      rfl

/-- A receipt that comes to a station is of no consequence. -/
theorem Spreading.deliver_receipt (h : Spreading base message routes mesh)
    (hready : base.ReadyFor message) (hkept : message.isNoCache = false) {flight : Flight}
    {left : List Flight} (hanswered : message.IsAnsweredBy flight.data)
    (hleft : ∀ other ∈ left, other ∈ mesh.inFlight)
    (hgone : ∀ other ∈ mesh.inFlight, other ∈ left ∨ other = flight) :
    Spreading base message routes (mesh.react flight.target.station
      (·.handle flight.data (some flight.target.peer)) left) := by
  refine h.quiet hready (fun _ => Station.outline_handle ..) ?_ hleft ?_
  · intro station hstation
    obtain ⟨hrequested, receipt, hdata, hreceipt⟩ := hanswered
    exact Station.responds_of_quiet (h.knows _ station hstation) hkept hdata
      (.inr (.inl ⟨hrequested, hreceipt⟩))
  · intro other hother hcopy _
    refine .inl ((hgone other hother).resolve_right ?_)
    rintro rfl
    exact not_carriesCopy_of_isAnsweredBy hkept hanswered hcopy

/-! ## Runs -/

/-- **One delivery** carries the flood on, whichever frame is delivered. -/
theorem Spreading.step (h : Spreading base message routes mesh) (hready : base.ReadyFor message)
    (hmessage : message.IsFloodable base.stations.length) (index : Nat) :
    ∃ routes', Spreading base message routes' (mesh.step index) ∧
      ∀ other, (routes other).isSome = true → (routes' other).isSome = true := by
  cases hflight : mesh.inFlight[index]? with
  | none =>
    rw [step_eq_self hflight]
    exact ⟨routes, h, fun _ => id⟩
  | some flight =>
    obtain ⟨hleft, hgone⟩ := mem_eraseIdx_or_eq hflight
    rw [step_eq_react hflight]
    rcases h.carried flight (List.mem_of_getElem? hflight) with hcopy | hanswered
    · exact h.deliver_copy hready hmessage hcopy hleft hgone
    · exact ⟨routes, h.deliver_receipt hready hmessage.kept hanswered hleft hgone, fun _ => id⟩

/-- **A run** carries the flood on, in whichever order it delivers. -/
theorem Spreading.run (h : Spreading base message routes mesh) (hready : base.ReadyFor message)
    (hmessage : message.IsFloodable base.stations.length) (order : List Nat) :
    ∃ routes', Spreading base message routes' (mesh.run order) ∧
      ∀ other, (routes other).isSome = true → (routes' other).isSome = true := by
  induction order generalizing mesh routes with
  | nil => exact ⟨routes, h, fun _ => id⟩
  | cons index order ih =>
    obtain ⟨routes', hstep, hgrown⟩ := h.step hready hmessage index
    obtain ⟨routes'', hrun, hgrown'⟩ := ih hstep
    exact ⟨routes'', hrun, fun other hother => hgrown' other (hgrown other hother)⟩

/-- Before the flood no station has a copy. -/
theorem ReadyFor.spreading (hready : mesh.ReadyFor message) :
    Spreading mesh message (fun _ => none) mesh where
  outline := rfl
  drained := hready.drained
  isFlood := ⟨nofun, nofun, nofun⟩
  knows index station hstation := Station.knows_none
    (hready.uncached station (List.mem_of_getElem? hstation))
    (hready.unheard station (List.mem_of_getElem? hstation))
  carried flight hflight := by
    rw [hready.idle] at hflight
    cases hflight
  relayed := nofun

/-- The flood begins with the route of the station that spreads the message. -/
theorem ReadyFor.spreading_spread (hready : mesh.ReadyFor message)
    (hmessage : message.IsFloodable mesh.stations.length) {origin : Nat} {station : Station}
    (horigin : mesh.stations[origin]? = some station)
    (hwrite : station.node.engine.readOnly = false) :
    (mesh.spread origin message).2 = .ok () ∧
      Spreading mesh message (Routes.extend (fun _ => none) origin [])
        (mesh.spread origin message).1.launch := by
  have h := hready.spreading
  have hmem := List.mem_of_getElem? horigin
  have hadmits := hready.admits station hmem
  obtain ⟨hloop, hfits⟩ := hready.isNamed.fits_hop hmessage hmem
  obtain ⟨hok, frames, hresponds, hpasses⟩ := Station.responds_of_spread (h.knows _ station horigin)
    hmessage.kept hmessage.canonical hadmits.capacity hadmits.ignores hwrite hloop hfits
  refine ⟨by simpa only [Mesh.spread, horigin] using hok, ?_⟩
  rw [launch_spread_eq_react horigin]
  exact h.accept hready hmessage horigin rfl List.nodup_nil (by simp)
    (fun _ => Station.outline_spread ..) hresponds hpasses (fun _ => id) fun _ => .inl

/-- When no frame is left, every station has a copy. -/
theorem Spreading.isSome_of_idle (h : Spreading base message routes mesh)
    (hconnected : base.Connected) (hbudget : base.stations.length ≤ message.ttl.toNat)
    (hidle : mesh.inFlight = []) {origin : Nat} (horigin : (routes origin).isSome = true)
    {index : Nat} (hindex : index < base.stations.length) : (routes index).isSome = true := by
  by_cases hspent : ∃ here route, routes here = some route ∧ base.stations.length ≤ route.length
  · obtain ⟨here, route, hroute, hlength⟩ := hspent
    exact h.isFlood.reached_of_le_length hroute hlength hindex
  · -- No budget ran out, so the stations with a copy are closed under links.
    have hclosed : ∀ here there, (routes here).isSome = true → base.Linked here there →
        there < base.stations.length → (routes there).isSome = true := by
      intro here there hhere hlinked hthere
      obtain ⟨route, hroute⟩ := Option.isSome_iff_exists.mp hhere
      have hlength : route.length < base.stations.length :=
        Nat.lt_of_not_le fun hle => hspent ⟨here, route, hroute, hle⟩
      refine (h.relayed here route hroute (by omega) there hthere hlinked).resolve_right ?_
      rintro ⟨flight, hflight, -⟩
      rw [hidle] at hflight
      cases hflight
    obtain ⟨route, hroute⟩ := Option.isSome_iff_exists.mp horigin
    have hpath := hconnected origin (h.isFlood.lt origin route hroute) index hindex
    induction hpath with
    | refl => exact horigin
    | tail _ hlinked ih =>
      -- A link starts at a station of the mesh, to which the induction hypothesis applies.
      obtain ⟨station, hstation, -⟩ := id hlinked
      exact hclosed _ _ (ih (List.getElem?_eq_some_iff.mp hstation).1) hlinked hindex

end Mesh

/-! ## Coverage -/

/-- A station that took a message in once: all it holds is one copy, which everyone who listens
noted once. If the message asked for receipts, some of these may have come under its key. -/
structure Station.TookOnce (station : Station) (message : Message) : Prop where
  cached : ∃ copy, station.node.cached = [copy] ∧ copy.isCopyOf message = true
  noted : (station.log.filter fun entry => entry.delivery.message.isCopyOf message).map
    LogEntry.observer = station.listeners
  others : ∀ entry ∈ station.log, entry.delivery.message.key = message.key →
    entry.delivery.message.isCopyOf message = true ∨
      message.isAckRequested = true ∧ entry.delivery.message.IsReceipt

theorem Station.Knows.tookOnce {station : Station} {message copy : Message}
    (h : station.Knows message (some copy)) : station.TookOnce message where
  cached := ⟨copy, h.cached, h.isCopyOf copy rfl⟩
  noted := by simpa using h.noted
  others := h.others

namespace Mesh

/-- **A flood reaches everyone, once.** In a connected mesh that is ready for a message, a station
that is not read-only spreads the message. Whatever the order of deliveries, once no frame is in
flight every station took the message in once. -/
theorem flood_covers {mesh : Mesh} {message : Message} {origin : Nat} {station : Station}
    (hready : mesh.ReadyFor message) (hconnected : mesh.Connected)
    (hmessage : message.IsFloodable mesh.stations.length)
    (horigin : mesh.stations[origin]? = some station)
    (hwrite : station.node.engine.readOnly = false) :
    (mesh.spread origin message).2 = .ok () ∧
      ∀ order, ((mesh.spread origin message).1.launch.run order).inFlight = [] →
        ((mesh.spread origin message).1.launch.run order).outline = mesh.outline ∧
        ∀ station ∈ ((mesh.spread origin message).1.launch.run order).stations,
          station.TookOnce message := by
  obtain ⟨hok, hspread⟩ := hready.spreading_spread hmessage horigin hwrite
  refine ⟨hok, fun order hidle => ?_⟩
  obtain ⟨routes, hrun, hgrown⟩ := hspread.run hready hmessage order
  refine ⟨hrun.outline, fun station hstation => ?_⟩
  obtain ⟨index, hindex⟩ := List.mem_iff_getElem?.mp hstation
  have hstart : (routes origin).isSome = true := hgrown origin (by rw [Routes.extend_self]; rfl)
  have hreached := hrun.isSome_of_idle hconnected hmessage.budget hidle hstart
    (lt_length_of_outline_eq hrun.outline hindex)
  obtain ⟨route, hroute⟩ := Option.isSome_iff_exists.mp hreached
  have hknows := hrun.knows index station hindex
  rw [hroute] at hknows
  exact hknows.tookOnce

/-- A flood through the ring that always delivers the oldest frame. -/
theorem flood_covers_ring :
    ring.ReadyFor ringMessage ∧ ring.Connected ∧ ringMessage.IsFloodable ring.stations.length ∧
      (ring.spread 0 ringMessage).2 = .ok () ∧
      ∀ station ∈ ((ring.spread 0 ringMessage).1.launch.run (List.replicate 8 0)).stations,
        station.TookOnce ringMessage := by
  have hmessage : ringMessage.IsFloodable ring.stations.length :=
    ⟨by decide, by decide, rfl, by decide, by decide +kernel⟩
  have hfirst : 0 < ring.stations.length := by decide +kernel
  have hwrite : ∀ station ∈ ring.stations, station.node.engine.readOnly = false := by
    decide +kernel
  obtain ⟨hok, hcovers⟩ := flood_covers readyFor_ring connected_ring hmessage
    (List.getElem?_eq_getElem hfirst) (hwrite _ (List.getElem_mem hfirst))
  have hidle : ((ring.spread 0 ringMessage).1.launch.run (List.replicate 8 0)).inFlight = [] := by
    decide +kernel
  exact ⟨readyFor_ring, connected_ring, hmessage, hok, (hcovers _ hidle).2⟩

end Mesh

end RadioGossip
