import Mathlib.Data.List.Chain
import RadioGossip.Proofs.Reactions
import RadioGossip.Proofs.Readiness

/-!
# Where relays come from

Stations spread messages, and frames in flight are delivered, in any order and as often as may be.
Whatever caches forget on the way and whatever handlers answer, each frame in flight is one of two
things. It is a reply, which nobody keeps or passes on. Or it is a **relay**: some station spread a
message, and the frame is what became of it on a **route** over links to the station that sent the
frame off.

A relay says so itself. Its path names the stations of the route, none of them twice; its hop budget
is what the route left of that of the message; in all else it is the message. Since the budget is a
byte, so short a path never grows beyond what can be written.
-/

namespace RadioGossip

/-! ## Moves -/

/-- What happens in a mesh. -/
inductive Move where
  /-- A station spreads a message. -/
  | spread (index : Nat) (message : Message)
  /-- One of the frames in flight is delivered. -/
  | deliver (index : Nat)
  deriving DecidableEq, Repr

/-- A message as a station spreads it: it has been nowhere yet, and it can be written. -/
structure Message.IsOriginal (message : Message) : Prop where
  canonical : message.IsCanonical
  path : message.path = .empty
  payload : message.payload.length ≤ maxPayloadLength

namespace Mesh

variable {base mesh : Mesh} {moves moves' : List Move}

/-- The mesh after a move. What a station queues in the move is in flight then. -/
def move (mesh : Mesh) : Move → Mesh
  | .spread index message => (mesh.spread index message).1.launch
  | .deliver index => mesh.step index

/-- The mesh after some moves, the first of them first. -/
def moveAll (mesh : Mesh) (moves : List Move) : Mesh := moves.foldl move mesh

/-- In the course of the moves the station spread the message, and was not refused. -/
def Spreads (mesh : Mesh) (moves : List Move) (origin : Nat) (message : Message) : Prop :=
  ∃ before after, moves = before ++ .spread origin message :: after ∧
    ((mesh.moveAll before).spread origin message).2 = .ok ()

theorem moveAll_concat (mesh : Mesh) (moves : List Move) (last : Move) :
    mesh.moveAll (moves ++ [last]) = (mesh.moveAll moves).move last := by
  simp [moveAll]

theorem Spreads.concat {origin : Nat} {message : Message} (h : mesh.Spreads moves origin message)
    (last : Move) : mesh.Spreads (moves ++ [last]) origin message := by
  obtain ⟨before, after, rfl, hok⟩ := h
  exact ⟨before, after ++ [last], by simp, hok⟩

theorem LeadsTo.lt_length {index : Nat} {target : LinkEnd} (h : mesh.LeadsTo index target) :
    index < mesh.stations.length := by
  obtain ⟨station, hstation, -⟩ := h
  exact (List.getElem?_eq_some_iff.mp hstation).1

/-- What comes into flight from a station that was drained is among the frames that it sends. -/
theorem mem_frames_of_sends {index : Nat} {station after : Station} {frames : PeerId → List Bytes}
    {flight : Flight} (hdrained : mesh.IsDrained) (hstation : mesh.stations[index]? = some station)
    (hsends : station.node.Sends after.node frames)
    (hflight : flight ∈ (mesh.takeFromStation index after).2) :
    mesh.LeadsTo index flight.target ∧ ∃ id, flight.data ∈ frames id := by
  obtain ⟨peer, hpeer, htarget, hdata⟩ := mem_takeFromStation.mp hflight
  rw [hsends] at hpeer
  obtain ⟨before, hbefore, rfl⟩ := List.mem_map.mp hpeer
  rw [Peer.queueAll_eq] at htarget hdata
  have hempty : before.outbox.contents = [] :=
    hdrained index station hstation before hbefore (Option.isSome_iff_exists.mpr ⟨_, htarget⟩)
  have hmem := (before.outbox.contents_pushAll_sublist _).subset hdata
  rw [hempty, List.nil_append] at hmem
  exact ⟨⟨station, hstation, before, hbefore, htarget⟩, before.id, hmem⟩

/-! ## Routes of relays -/

/-- The flight carries what became of a message on its route over links. -/
structure Relays (base : Mesh) (moves : List Move) (flight : Flight) (message : Message)
    (route : List Nat) : Prop where
  original : message.IsOriginal
  kept : message.isNoCache = false
  spread : ∃ origin ∈ route.head?, base.Spreads moves origin message
  stops : ∀ stop ∈ route, stop < base.stations.length
  walk : route.IsChain base.Linked
  sent : ∃ sender ∈ route.getLast?, base.LeadsTo sender flight.target
  distinct : (route.map base.callsign).Nodup
  budget : route.length < message.ttl.toNat
  decode : Message.decode flight.data = .ok (base.copyAlong message route)

theorem Relays.concat {flight : Flight} {message : Message} {route : List Nat}
    (h : base.Relays moves flight message route) (last : Move) :
    base.Relays (moves ++ [last]) flight message route :=
  { h with
    spread := by
      obtain ⟨origin, horigin, hspread⟩ := h.spread
      exact ⟨origin, horigin, hspread.concat last⟩ }

variable {message : Message} {route : List Nat} {index : Nat} {target : LinkEnd} {wire : Bytes}

/-- A station that relays what came to it along a route stands at the end of the route of the relay.
The relay has budget left, and the station is named on it only once, for otherwise the message would
have been dropped. -/
theorem relays_of_relayOf (hnamed : base.IsNamed)
    (horiginal : message.IsOriginal) (hkept : message.isNoCache = false)
    (hspread : ∃ origin ∈ (route ++ [index]).head?, base.Spreads moves origin message)
    (hstops : ∀ stop ∈ route, stop < base.stations.length)
    (hwalk : (route ++ [index]).IsChain base.Linked) (hleads : base.LeadsTo index target)
    (hdistinct : (route.map base.callsign).Nodup)
    (hloop : (base.copyAlong message route).path.contains (base.callsign index) = false)
    (hwire : Engine.relayOf ((base.copyAlong message route).hop (base.callsign index)) = some wire) :
    base.Relays moves ⟨target, wire⟩ message (route ++ [index]) := by
  have hcanonical : (base.copyAlong message (route ++ [index])).IsCanonical :=
    Message.isCanonical_of_isCopyOf (base.isCopyOf_copyAlong message _) horiginal.canonical
  rw [← copyAlong_concat] at hwire
  refine ⟨horiginal, hkept, hspread, ?_, hwalk, ⟨index, by simp, hleads⟩, ?_, ?_,
    Engine.decode_of_relayOf_eq_some hcanonical hwire⟩
  · intro stop hstop
    rcases List.mem_append.mp hstop with hstop | hstop
    · exact hstops stop hstop
    · rw [List.mem_singleton.mp hstop]
      exact hleads.lt_length
  · have hnew : base.callsign index ∉ route.map base.callsign := by
      rw [← hnamed.hops_copyAlong horiginal.path hstops, ← Path.contains_iff_mem_hops, hloop]
      exact Bool.false_ne_true
    rw [List.map_append, List.map_singleton]
    exact (List.perm_append_singleton _ _).nodup_iff.mpr (List.nodup_cons.mpr ⟨hnew, hdistinct⟩)
  · -- A message whose budget is spent is not relayed.
    exact ttl_copyAlong_ne_zero_iff.mp (Engine.relayOf_eq_some_iff.mp hwire).1

/-! ## Runs -/

/-- A mesh in which everything in flight is a reply or a relay. -/
structure Conserving (base : Mesh) (moves : List Move) (mesh : Mesh) : Prop where
  outline : mesh.outline = base.outline
  drained : mesh.IsDrained
  carried : ∀ flight ∈ mesh.inFlight,
    IsReplyFrame flight.data ∨ ∃ message route, base.Relays moves flight message route

theorem Conserving.concat (h : Conserving base moves mesh) (last : Move) :
    Conserving base (moves ++ [last]) mesh where
  outline := h.outline
  drained := h.drained
  carried flight hflight := by
    refine (h.carried flight hflight).imp_right ?_
    rintro ⟨message, route, hrelays⟩
    exact ⟨message, route, hrelays.concat last⟩

theorem Conserving.launch (h : Conserving base moves mesh) : Conserving base moves mesh.launch where
  outline := (outline_launch mesh).trans h.outline
  drained := isDrained_launch mesh
  carried flight hflight := by
    rw [inFlight_launch_of_isDrained h.drained] at hflight
    exact h.carried flight hflight

/-- A move in which one station reacts, and sends replies and relays only. -/
theorem Conserving.react (h : Conserving base moves mesh) {reaction : Station → Station}
    {left : List Flight} (last : Move)
    (houtline : ∀ station, (reaction station).outline = station.outline)
    (hleft : ∀ flight ∈ left, flight ∈ mesh.inFlight)
    (hsends : ∀ station, mesh.stations[index]? = some station →
      ∃ frames, station.node.Sends (reaction station).node frames ∧ ∀ id, ∀ data ∈ frames id,
        IsReplyFrame data ∨ ∀ target, base.LeadsTo index target →
          ∃ message route, base.Relays (moves ++ [last]) ⟨target, data⟩ message route) :
    Conserving base (moves ++ [last]) (mesh.react index reaction left) where
  outline := (outline_react left houtline).trans h.outline
  drained := isDrained_react mesh index reaction left
  carried flight hflight := by
    rcases (mem_inFlight_react h.drained).mp hflight with hold | ⟨station, hstation, hnew⟩
    · exact (h.concat last).carried flight (hleft flight hold)
    · obtain ⟨frames, hframes, hkinds⟩ := hsends station hstation
      obtain ⟨hleads, id, hdata⟩ := mem_frames_of_sends h.drained hstation hframes hnew
      exact (hkinds id flight.data hdata).imp_right fun hrelays =>
        hrelays flight.target (leadsTo_of_outline_eq h.outline hleads)

/-- A station that spreads a message begins a route. -/
theorem Conserving.spread (h : Conserving base moves mesh) (hnamed : base.IsNamed)
    (hmesh : mesh = base.moveAll moves) (horiginal : message.IsOriginal) :
    Conserving base (moves ++ [.spread index message]) (mesh.move (.spread index message)) := by
  cases hstation : mesh.stations[index]? with
  | none =>
    have hmove : mesh.move (.spread index message) = mesh.launch := by
      simp only [move, Mesh.spread, hstation]
    rw [hmove]
    exact (h.concat _).launch
  | some station =>
    rw [move, launch_spread_eq_react hstation]
    refine h.react _ (fun _ => Station.outline_spread ..) (fun _ => id) fun station' hstation' => ?_
    obtain rfl : station = station' := by rwa [hstation, Option.some.injEq] at hstation'
    obtain ⟨relay, replies, hreacts, hok⟩ := station.exists_reacts_spread message
    refine ⟨_, hreacts.sends, fun id data hdata => (hreacts.mem_frames hdata).symm.imp_right ?_⟩
    intro hrelay target hleads
    obtain ⟨hkept, hloop, hwire⟩ := hreacts.relayed data hrelay
    rw [← callsign_of_outline_eq h.outline hstation] at hloop hwire
    have hspreads : base.Spreads (moves ++ [.spread index message]) index message := by
      refine ⟨moves, [], rfl, ?_⟩
      rw [← hmesh, Mesh.spread, hstation]
      exact hok (by rw [hrelay]; exact Option.some_ne_none data)
    refine ⟨message, [] ++ [index], relays_of_relayOf hnamed horiginal hkept
      ⟨index, rfl, hspreads⟩ (by simp) (List.IsChain.singleton index) hleads List.nodup_nil hloop hwire⟩

/-- A station that takes in a relay lengthens its route, and one that takes in a reply sends no
relay. -/
theorem Conserving.deliver (h : Conserving base moves mesh) (hnamed : base.IsNamed) (place : Nat) :
    Conserving base (moves ++ [.deliver place]) (mesh.move (.deliver place)) := by
  cases hflight : mesh.inFlight[place]? with
  | none =>
    rw [move, step_eq_self hflight]
    exact h.concat _
  | some flight =>
    rw [move, step_eq_react hflight]
    refine h.react _ (fun _ => Station.outline_handle ..) (fun _ => List.mem_of_mem_eraseIdx) ?_
    intro station hstation
    rcases h.carried flight (List.mem_of_getElem? hflight) with hreply | ⟨message, route, hrelays⟩
    · obtain ⟨received, hraw, hisReply⟩ := hreply
      obtain ⟨relay, replies, hreacts⟩ :=
        station.exists_reacts_handle hraw (some flight.target.peer)
      refine ⟨_, hreacts.sends, fun id data hdata => .inl ?_⟩
      -- What is relayed was to be kept, and a reply is not.
      refine (hreacts.mem_frames hdata).resolve_left fun hrelay => ?_
      have hkept := (hreacts.relayed data hrelay).1
      rw [hisReply.noCache] at hkept
      cases hkept
    · obtain ⟨relay, replies, hreacts⟩ :=
        station.exists_reacts_handle hrelays.decode (some flight.target.peer)
      refine ⟨_, hreacts.sends, fun id data hdata => (hreacts.mem_frames hdata).symm.imp_right ?_⟩
      intro hrelay target hleads
      obtain ⟨-, hloop, hwire⟩ := hreacts.relayed data hrelay
      rw [← callsign_of_outline_eq h.outline hstation] at hloop hwire
      obtain ⟨origin, horigin, hspread⟩ := hrelays.spread
      obtain ⟨sender, hsender, hsent⟩ := hrelays.sent
      refine ⟨message, route ++ [flight.target.station], relays_of_relayOf hnamed hrelays.original
        hrelays.kept ⟨origin, ?_, hspread.concat _⟩ hrelays.stops ?_ hleads hrelays.distinct hloop
        hwire⟩
      · rw [List.head?_append, Option.mem_def.mp horigin]
        rfl
      · refine List.isChain_append.mpr ⟨hrelays.walk, .singleton _, ?_⟩
        intro last hlast next hnext
        obtain rfl : sender = last := Option.mem_unique hsender hlast
        obtain rfl : flight.target.station = next := Option.some.inj hnext
        exact linked_iff.mpr ⟨flight.target, hsent, rfl⟩

/-- **A run** of moves leaves nothing in flight but replies and relays. -/
theorem conserving_moveAll (hnamed : base.IsNamed) (hdrained : base.IsDrained)
    (hidle : base.inFlight = [])
    (hspreads : ∀ index message, .spread index message ∈ moves → message.IsOriginal) :
    Conserving base moves (base.moveAll moves) := by
  induction moves using List.reverseRecOn with
  | nil => exact ⟨rfl, hdrained, fun flight hflight => absurd (hidle ▸ hflight) List.not_mem_nil⟩
  | append_singleton moves last ih =>
    have h := ih fun index message hmem => hspreads index message (by simp [hmem])
    rw [moveAll_concat]
    cases last with
    | spread index message => exact h.spread hnamed rfl (hspreads index message (by simp))
    | deliver place => exact h.deliver hnamed place

/-! ## What relays say -/

/-- What a relay says of itself is true. It is a copy of a message that some station spread, except
for its path and its hop budget. Its path names the stations of a route over links, from the one that
spread the message to the one that sent the relay off, no callsign twice, and its budget is what that
route left of the budget of the message. Path and budget are such that every station can write the
message after one more hop. -/
structure IsTrueRelay (base : Mesh) (moves : List Move) (flight : Flight) (copy message : Message)
    (route : List Nat) : Prop where
  decode : Message.decode flight.data = .ok copy
  kept : copy.isNoCache = false
  content : copy.isCopyOf message = true
  spread : ∃ origin ∈ route.head?, base.Spreads moves origin message
  walk : route.IsChain base.Linked
  sent : ∃ sender ∈ route.getLast?, base.LeadsTo sender flight.target
  hops : copy.path.hops = route.map base.callsign
  distinct : copy.path.hops.Nodup
  budget_pos : 1 ≤ copy.ttl.toNat
  budget : copy.ttl.toNat + copy.path.hops.length = message.ttl.toNat
  length_path_le : copy.path.length ≤ 65279
  writable : ∀ station ∈ base.stations, ∃ wire, (copy.hop station.callsign).encode = .ok wire

theorem Relays.isTrueRelay {flight : Flight} (h : base.Relays moves flight message route)
    (hnamed : base.IsNamed) :
    base.IsTrueRelay moves flight (base.copyAlong message route) message route := by
  have hhops := hnamed.hops_copyAlong h.original.path h.stops
  have httl : (base.copyAlong message route).ttl.toNat = message.ttl.toNat - route.length := by
    have := message.toNat_ttl_along (route.map base.callsign)
    rwa [List.length_map] at this
  have hbudget := h.budget
  have hbyte := message.ttl.toNat_lt
  have hlength : (base.copyAlong message route).path.length ≤ 65279 := by
    have hempty : message.path.length = 0 := by
      rw [h.original.path]
      rfl
    have hle := message.length_path_along_le (hnamed.utf8ByteSize_le_of_mem_map h.stops)
    rw [List.length_map, hempty] at hle
    rw [copyAlong]
    omega
  have hcontent := base.isCopyOf_copyAlong message route
  refine ⟨h.decode, ?_, hcontent, h.spread, h.walk, h.sent, hhops, ?_, ?_, ?_, hlength, ?_⟩
  · rw [Message.isNoCache_of_isCopyOf hcontent, h.kept]
  · rw [hhops]
    exact h.distinct
  · omega
  · rw [hhops, List.length_map]
    omega
  · intro station hstation
    have hcallsign := (hnamed station hstation).utf8ByteSize_callsign_le
    have happend := Path.length_append_le (base.copyAlong message route).path station.callsign
    simp only [maxFieldLength] at hcallsign
    obtain ⟨-, -, -, -, -, hpayload⟩ := Message.isCopyOf_iff.mp hcontent
    refine ⟨_, Message.encode_of_fits ⟨?_, ?_⟩⟩
    · simp only [Message.hop, Path.maxLength]
      omega
    · simp only [Message.hop, hpayload]
      exact h.original.payload

/-- **Relays conserve messages.** In a mesh whose stations may be named in paths, and where nothing is
under way at first, stations spread messages and frames in flight are delivered, in any order. Then
every frame in flight is a reply, which is neither kept nor passed on, or a true relay of a message
that some station spread. -/
theorem relays_conserve {base : Mesh} {moves : List Move} (hnamed : base.IsNamed)
    (hdrained : base.IsDrained) (hidle : base.inFlight = [])
    (hspreads : ∀ index message, .spread index message ∈ moves → message.IsOriginal) :
    ∀ flight ∈ (base.moveAll moves).inFlight, IsReplyFrame flight.data ∨
      ∃ copy message route, base.IsTrueRelay moves flight copy message route := by
  intro flight hflight
  have hconserving := conserving_moveAll hnamed hdrained hidle hspreads
  refine (hconserving.carried flight hflight).imp_right ?_
  rintro ⟨message, route, hrelays⟩
  exact ⟨_, message, route, hrelays.isTrueRelay hnamed⟩

/-- A relay on its way in the ring, when the message was spread and taken in once. -/
theorem relays_conserve_ring :
    let moves : List Move := [.spread 0 ringMessage, .deliver 0]
    ring.IsNamed ∧ ring.IsDrained ∧ ring.inFlight = [] ∧
      (∀ index message, .spread index message ∈ moves → message.IsOriginal) ∧
      ∃ flight ∈ (ring.moveAll moves).inFlight, ∃ copy message route,
        ring.IsTrueRelay moves flight copy message route := by
  intro moves
  have hready := readyFor_ring
  have hspreads : ∀ index message, .spread index message ∈ moves → message.IsOriginal := by
    intro index message hmem
    obtain ⟨rfl, rfl⟩ : index = 0 ∧ message = ringMessage := by simpa [moves] using hmem
    exact ⟨by decide, rfl, by decide⟩
  have hkept : ∃ flight ∈ (ring.moveAll moves).inFlight,
      (Message.decode flight.data).toOption.any (fun copy => !copy.isNoCache) = true := by
    decide +kernel
  obtain ⟨flight, hflight, hkept⟩ := hkept
  refine ⟨hready.isNamed, hready.drained, hready.idle, hspreads, flight, hflight, ?_⟩
  refine (relays_conserve hready.isNamed hready.drained hready.idle hspreads flight
    hflight).resolve_left ?_
  -- What is to be kept is no reply.
  rintro ⟨reply, hdecode, hisReply⟩
  rw [hdecode] at hkept
  simp [Except.toOption, hisReply.noCache] at hkept

end Mesh

end RadioGossip
