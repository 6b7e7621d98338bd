import Mathlib.Algebra.Group.Action.Defs
import Mathlib.Algebra.Order.BigOperators.Group.List
import Mathlib.Algebra.Order.Ring.Nat
import Mathlib.Data.List.Perm.Basic
import RadioGossip.Proofs.Launching
import RadioGossip.Proofs.Reactions

/-!
# A mesh comes to rest

Every frame has a **price**, which pays for its delivery and for all that the delivery can lead to.
A reply leads to nothing and costs one. A query may be answered by every handler. A message that is
to be kept may besides be relayed to every peer, with one hop less to go, so its price is told by its
hop budget; it does not depend on what the caches hold or what the path says.

The **potential** of a mesh is the price of all the frames that are under way. A delivery spends the
price of its frame, and what it leads to costs less. So while nothing new is sent, each delivery
makes the potential less, whichever frame it delivers, and there are no more deliveries than the
potential allows at first.
-/

namespace RadioGossip

/-! ## Prices -/

/-- How much one delivery can lead to: the peers that may get frames for it, and the replies that
may be sent to one of them. -/
structure Fanout where
  peers : Nat
  replies : Nat
  deriving DecidableEq, Repr

namespace Fanout

/-- The price of a message that is to be kept, by its hop budget. -/
def hopPrice (fanout : Fanout) : (budget : Nat) → Nat
  | 0 => 1 + fanout.peers * fanout.replies
  | budget + 1 => 1 + fanout.peers * (fanout.hopPrice budget + fanout.replies)

/-- The price of a frame. What is no message is dropped, which costs one as well. -/
def price (fanout : Fanout) (data : Bytes) : Nat :=
  match Message.decode data with
  | .error _ => 1
  | .ok message =>
    if message.isNoCache then
      if message.isQuery then 1 + fanout.peers * fanout.replies else 1
    else fanout.hopPrice message.ttl.toNat

/-- The price of some frames. -/
def total (fanout : Fanout) (frames : List Bytes) : Nat := (frames.map fanout.price).sum

variable {fanout : Fanout}

@[simp] theorem total_nil : fanout.total [] = 0 := rfl

@[simp] theorem total_append (frames frames' : List Bytes) :
    fanout.total (frames ++ frames') = fanout.total frames + fanout.total frames' := by
  simp [total]

theorem one_le_hopPrice (budget : Nat) : 1 ≤ fanout.hopPrice budget := by
  cases budget <;> exact Nat.le_add_right 1 _

theorem one_le_price (data : Bytes) : 1 ≤ fanout.price data := by
  simp only [price]
  split
  · exact Nat.le_refl 1
  · split
    · split
      · exact Nat.le_add_right 1 _
      · exact Nat.le_refl 1
    · exact one_le_hopPrice _

theorem total_of_replies {replies : List Bytes} (h : ∀ reply ∈ replies, IsReplyFrame reply) :
    fanout.total replies = replies.length := by
  have hprice : ∀ reply ∈ replies, fanout.price reply = 1 := by
    intro reply hreply
    obtain ⟨message, hdecode, hisReply⟩ := h reply hreply
    simp [price, hdecode, hisReply.noCache, hisReply.not_isQuery]
  rw [total, List.map_congr_left hprice]
  simp

/-- A relay has one hop less to go than what it is the relay of. -/
theorem price_of_relayOf_eq_some (fanout : Fanout) {message : Message} {callsign : String}
    {wire : Bytes} (hcanonical : message.IsCanonical) (hkept : message.isNoCache = false)
    (h : Engine.relayOf (message.hop callsign) = some wire) :
    ∃ budget, message.ttl.toNat = budget + 1 ∧ fanout.price wire = fanout.hopPrice budget := by
  have hdecode : Message.decode wire = .ok (message.hop callsign) :=
    Engine.decode_of_relayOf_eq_some hcanonical h
  obtain ⟨hspent, -⟩ := Engine.relayOf_eq_some_iff.mp h
  have httl := message.toNat_ttl_hop callsign
  have hpos : (message.hop callsign).ttl.toNat ≠ 0 := fun hzero => hspent (UInt8.toNat_inj.mp hzero)
  refine ⟨message.ttl.toNat - 1, by omega, ?_⟩
  have hkept' : (message.hop callsign).isNoCache = false := hkept
  simp only [price, hdecode, hkept', httl]
  rfl

/-- What a station sends to any one peer about a frame is paid for by the price of the frame, even
if all peers get it. -/
theorem called_lt_price {before after : Station} {raw : Bytes} {message : Message}
    {sender : Option PeerId} {relay : Option Bytes} {replies : List Bytes}
    (hraw : Message.decode raw = .ok message)
    (h : before.Reacts after message sender relay replies)
    (hreplies : before.messageHandlers.length + 1 ≤ fanout.replies) :
    fanout.peers * (fanout.total relay.toList + replies.length) < fanout.price raw := by
  have hlength : replies.length ≤ fanout.replies := Nat.le_trans h.length_le hreplies
  cases hno : message.isNoCache with
  | true =>
    -- There is no relay, and replies only if it is a query.
    obtain rfl : relay = none := by
      refine Option.eq_none_iff_forall_ne_some.mpr fun wire hwire => ?_
      have hkept := (h.relayed wire hwire).1
      rw [hno] at hkept
      cases hkept
    by_cases hnil : replies = []
    · have hpos : 0 < fanout.price raw := one_le_price raw
      simpa [hnil] using hpos
    · have hprice : fanout.price raw = 1 + fanout.peers * fanout.replies := by
        simp [price, hraw, hno, h.isQuery hno hnil]
      have hmul := Nat.mul_le_mul_left fanout.peers hlength
      simp only [Option.toList_none, total_nil, Nat.zero_add, hprice]
      omega
  | false =>
    have hprice : fanout.price raw = fanout.hopPrice message.ttl.toNat := by
      simp [price, hraw, hno]
    cases relay with
    | none =>
      have hmul := Nat.mul_le_mul_left fanout.peers hlength
      have hle : 1 + fanout.peers * fanout.replies ≤ fanout.hopPrice message.ttl.toNat := by
        cases message.ttl.toNat with
        | zero => exact Nat.le_refl _
        | succ budget =>
          have := Nat.mul_le_mul_left fanout.peers
            (Nat.le_add_left fanout.replies (fanout.hopPrice budget))
          rw [hopPrice]
          omega
      simp only [Option.toList_none, total_nil, Nat.zero_add, hprice]
      omega
    | some wire =>
      -- Each peer may get the relay, at the price for one hop less, and all the replies.
      obtain ⟨hcanonical, -⟩ := Message.decode_eq_ok.mp hraw
      obtain ⟨budget, hbudget, hwire⟩ :=
        fanout.price_of_relayOf_eq_some hcanonical hno (h.relayed wire rfl).2.2
      have hmul := Nat.mul_le_mul_left fanout.peers
        (Nat.add_le_add_left hlength (fanout.hopPrice budget))
      rw [hprice, hbudget, hopPrice]
      simp only [total, Option.toList_some, List.map_cons, List.map_nil, List.sum_cons,
        List.sum_nil, Nat.add_zero, hwire]
      omega

end Fanout

/-! ## What is held -/

namespace Mesh

variable {mesh : Mesh} {fanout : Fanout}

theorem data_takeFrom (mesh : Mesh) (index : Nat) (peer : Peer) :
    (mesh.takeFrom index peer).2.map Flight.data =
      if (mesh.otherEnd? ⟨index, peer.id⟩).isSome then peer.outbox.contents else [] := by
  simp only [takeFrom]
  cases mesh.otherEnd? ⟨index, peer.id⟩ with
  | none => rfl
  | some target => simp [Outbox.takeAll, Function.comp_def]

/-- The price of the frames that the linked peers of a station hold. -/
def heldPrice (mesh : Mesh) (fanout : Fanout) (index : Nat) (station : Station) : Nat :=
  fanout.total ((mesh.takeFromStation index station).2.map Flight.data)

theorem heldPrice_eq_sum (index : Nat) (station : Station) :
    mesh.heldPrice fanout index station = (station.node.peers.map fun peer =>
      fanout.total ((mesh.takeFrom index peer).2.map Flight.data)).sum := by
  simp only [heldPrice, takeFromStation]
  induction station.node.peers with
  | nil => rfl
  | cons peer peers ih =>
    simp only [List.map_cons, List.flatMap_cons, List.map_append, List.sum_cons,
      Fanout.total_append, ih]

/-- Sending frames costs no more than they do. -/
theorem heldPrice_le_of_sends (mesh : Mesh) (fanout : Fanout) {before after : Station}
    {frames : PeerId → List Bytes} (h : before.node.Sends after.node frames) (index : Nat) :
    mesh.heldPrice fanout index after ≤ mesh.heldPrice fanout index before +
      (before.node.peers.map fun peer => fanout.total (frames peer.id)).sum := by
  have hpeer : ∀ peer ∈ before.node.peers,
      fanout.total ((mesh.takeFrom index (peer.queueAll (frames peer.id))).2.map Flight.data) ≤
        fanout.total ((mesh.takeFrom index peer).2.map Flight.data) +
          fanout.total (frames peer.id) := by
    intro peer _
    simp only [data_takeFrom, Peer.queueAll_eq]
    split
    · rw [← Fanout.total_append]
      exact ((peer.outbox.contents_pushAll_sublist _).map _).sum_le_sum fun _ _ => Nat.zero_le _
    · exact Nat.zero_le _
  rw [heldPrice_eq_sum, heldPrice_eq_sum, h, List.map_map, ← List.sum_map_add]
  exact List.sum_le_sum hpeer

/-- The price of what is in flight once everything that is held was launched. -/
theorem total_inFlight_launch (mesh : Mesh) (fanout : Fanout) :
    fanout.total (mesh.launch.inFlight.map Flight.data) =
      fanout.total (mesh.inFlight.map Flight.data) +
        (mesh.stations.mapIdx (mesh.heldPrice fanout)).sum := by
  have hheld : ∀ (stations : List Station) (take : Nat → Station → Station × List Flight),
      fanout.total (((stations.mapIdx take).flatMap Prod.snd).map Flight.data) =
        (stations.mapIdx fun index station =>
          fanout.total ((take index station).2.map Flight.data)).sum := by
    intro stations
    induction stations with
    | nil => intro take; rfl
    | cons station stations ih =>
      intro take
      simp only [List.mapIdx_cons, List.flatMap_cons, List.map_append, Fanout.total_append,
        List.sum_cons, ih]
  rw [launch, List.map_append, Fanout.total_append, hheld]
  rfl

theorem total_inFlight_react (mesh : Mesh) (fanout : Fanout) (index : Nat)
    (reaction : Station → Station) (left : List Flight) :
    fanout.total ((mesh.react index reaction left).inFlight.map Flight.data) =
      fanout.total (left.map Flight.data) +
        ((mesh.stations.modify index reaction).mapIdx (mesh.heldPrice fanout)).sum := by
  rw [react, total_inFlight_launch]
  rfl

/-- Where one station changes, the sum over all stations changes by no more than its part does. -/
theorem sum_mapIdx_modify_le (stations : List Station) (part : Nat → Station → Nat) (index : Nat)
    (change : Station → Station) (extra : Nat)
    (h : ∀ station, stations[index]? = some station →
      part index (change station) ≤ part index station + extra) :
    ((stations.modify index change).mapIdx part).sum ≤ (stations.mapIdx part).sum + extra := by
  induction stations generalizing index part with
  | nil => simp
  | cons station stations ih =>
    cases index with
    | zero =>
      have hfirst := h station rfl
      simp only [List.modify_zero_cons, List.mapIdx_cons, List.sum_cons]
      omega
    | succ index =>
      have hothers := ih (fun other => part (other + 1)) index h
      simp only [List.modify_succ_cons, List.mapIdx_cons, List.sum_cons]
      omega

/-! ## The potential -/

/-- How much a delivery in the mesh can lead to, whichever station it is for. -/
def totalFanout (mesh : Mesh) : Fanout where
  peers := (mesh.outline.stations.map fun station => station.node.peers.length).sum
  replies := (mesh.outline.stations.map fun station => station.messageHandlers.length).sum + 1

/-- The price of all the frames that are under way: in flight, or held for a link. -/
def potential (mesh : Mesh) : Nat :=
  mesh.totalFanout.total (mesh.launch.inFlight.map Flight.data)

theorem totalFanout_of_outline_eq {mesh other : Mesh} (h : mesh.outline = other.outline) :
    mesh.totalFanout = other.totalFanout := by
  rw [totalFanout, totalFanout, h]

theorem length_peers_le {station : Station} (h : station ∈ mesh.stations) :
    station.node.peers.length ≤ mesh.totalFanout.peers := by
  refine List.single_le_sum (fun _ _ => Nat.zero_le _) _ (List.mem_map.mpr ?_)
  exact ⟨station.outline, List.mem_map_of_mem h, List.length_map _⟩

theorem length_messageHandlers_lt {station : Station} (h : station ∈ mesh.stations) :
    station.messageHandlers.length + 1 ≤ mesh.totalFanout.replies := by
  refine Nat.add_le_add_right (List.single_le_sum (fun _ _ => Nat.zero_le _) _ ?_) 1
  exact List.mem_map.mpr ⟨station.outline, List.mem_map_of_mem h, rfl⟩

/-- **What a station queues** when it handles a frame costs less than the frame. -/
theorem heldPrice_handle_lt {station : Station} (hstation : station ∈ mesh.stations) (index : Nat)
    (raw : Bytes) (sender : Option PeerId) :
    mesh.heldPrice mesh.totalFanout index (station.handle raw sender) <
      mesh.heldPrice mesh.totalFanout index station + mesh.totalFanout.price raw := by
  cases hraw : Message.decode raw with
  | error cause =>
    have hpeers := station.peers_handle_of_malformed hraw sender
    have hpos : 1 ≤ mesh.totalFanout.price raw := Fanout.one_le_price raw
    rw [heldPrice_eq_sum, heldPrice_eq_sum, hpeers]
    omega
  | ok message =>
    obtain ⟨relay, replies, hreacts⟩ := station.exists_reacts_handle hraw sender
    have hcalled : mesh.totalFanout.peers *
        (mesh.totalFanout.total relay.toList + replies.length) < mesh.totalFanout.price raw :=
      Fanout.called_lt_price hraw hreacts (length_messageHandlers_lt hstation)
    have hheld := mesh.heldPrice_le_of_sends mesh.totalFanout hreacts.sends index
    have hpeer : ∀ peer ∈ station.node.peers, mesh.totalFanout.total
        (relay.toList ++ if sender = some peer.id then replies else []) ≤
          mesh.totalFanout.total relay.toList + replies.length := by
      intro peer _
      rw [Fanout.total_append]
      refine Nat.add_le_add_left ?_ _
      split
      · exact Nat.le_of_eq (Fanout.total_of_replies hreacts.isReplyFrame)
      · exact Nat.zero_le _
    have hsent :=
      List.sum_le_card_nsmul (station.node.peers.map _) _ (List.forall_mem_map.mpr hpeer)
    have hpeers := Nat.mul_le_mul_right (mesh.totalFanout.total relay.toList + replies.length)
      (length_peers_le hstation)
    rw [List.length_map, smul_eq_mul] at hsent
    omega

/-- A delivery takes the price of its frame from that of the flights and adds less. -/
theorem total_inFlight_step_lt {index : Nat} {flight : Flight}
    (h : mesh.inFlight[index]? = some flight) :
    mesh.totalFanout.total ((mesh.step index).inFlight.map Flight.data) <
      mesh.totalFanout.total (mesh.launch.inFlight.map Flight.data) := by
  have hsplit : mesh.totalFanout.total (mesh.inFlight.map Flight.data) =
      mesh.totalFanout.price flight.data +
        mesh.totalFanout.total ((mesh.inFlight.eraseIdx index).map Flight.data) := by
    obtain ⟨hindex, rfl⟩ := List.getElem?_eq_some_iff.mp h
    exact (((List.getElem_cons_eraseIdx_perm hindex).symm.map _).map _).sum_eq
  have hpos : 1 ≤ mesh.totalFanout.price flight.data := Fanout.one_le_price flight.data
  have hstations := sum_mapIdx_modify_le mesh.stations (mesh.heldPrice mesh.totalFanout)
    flight.target.station (·.handle flight.data (some flight.target.peer))
    (mesh.totalFanout.price flight.data - 1) fun station hstation => by
      have hlt := heldPrice_handle_lt (List.mem_of_getElem? hstation) flight.target.station
        flight.data (some flight.target.peer)
      omega
  rw [step_eq_react h, total_inFlight_react, total_inFlight_launch, hsplit]
  omega

/-- **A delivery makes the potential less.** -/
theorem potential_step_lt {index : Nat} (h : index < mesh.inFlight.length) :
    (mesh.step index).potential < mesh.potential := by
  have hflight := List.getElem?_eq_getElem h
  have hfanout : (mesh.step index).totalFanout = mesh.totalFanout :=
    totalFanout_of_outline_eq (mesh.outline_step index)
  have hdrained : (mesh.step index).IsDrained := by
    rw [step_eq_react hflight]
    exact isDrained_react _ _ _ _
  -- After a delivery nothing is held any more, so all that is under way is in flight.
  rw [potential, hfanout, inFlight_launch_of_isDrained hdrained]
  exact total_inFlight_step_lt hflight

/-! ## Runs -/

/-- Each of the deliveries, the first of them first, finds its frame in flight. -/
def Delivers (mesh : Mesh) : (order : List Nat) → Prop
  | [] => True
  | index :: order => index < mesh.inFlight.length ∧ (mesh.step index).Delivers order

instance decidableDelivers (mesh : Mesh) : (order : List Nat) → Decidable (mesh.Delivers order)
  | [] => .isTrue trivial
  | index :: order =>
    haveI := decidableDelivers (mesh.step index) order
    inferInstanceAs (Decidable (index < mesh.inFlight.length ∧ (mesh.step index).Delivers order))

/-- **A run spends the potential.** -/
theorem length_add_potential_le {order : List Nat} (h : mesh.Delivers order) :
    order.length + (mesh.run order).potential ≤ mesh.potential := by
  induction order generalizing mesh with
  | nil => simp [run]
  | cons index order ih =>
    have hfirst := potential_step_lt h.1
    have hrest : order.length + (mesh.run (index :: order)).potential ≤
        (mesh.step index).potential := ih h.2
    rw [List.length_cons]
    omega

/-- **A mesh comes to rest.** Whatever the stations hold and whatever is in flight in a mesh, each
delivery makes its potential less. So if nothing new is sent, no run has more deliveries than the
potential says, and none goes on for ever. -/
theorem comes_to_rest :
    (∀ (mesh : Mesh) (index : Nat), index < mesh.inFlight.length →
      (mesh.step index).potential < mesh.potential) ∧
    (∀ (mesh : Mesh) (order : List Nat), mesh.Delivers order →
      order.length + (mesh.run order).potential ≤ mesh.potential) ∧
    ∀ (mesh : Mesh) (order : Nat → Nat),
      ∃ count, ¬ mesh.Delivers ((List.range count).map order) := by
  refine ⟨fun _ _ => potential_step_lt, fun _ _ => length_add_potential_le, fun mesh order => ?_⟩
  refine ⟨mesh.potential + 1, fun hdelivers => ?_⟩
  have hle := length_add_potential_le hdelivers
  rw [List.length_map, List.length_range] at hle
  omega

/-- Two stations that never notice that a message comes round: their caches hold nothing, and their
callsign never stands in a path as one hop. In flight are a frame that is no message and a message
with three hops to go. -/
def echo : Mesh :=
  let station : Station := (Station.ofNode (.new (.ofLetter 59)
    { cacheSize := 0, queueSize := 2 } 1)).registerReconciler.1
  let message := { Message.make station.node.self 7 .cq [1] with ttl := 3 }
  { ofStations [station, station] [(0, 1)] with
    inFlight := [⟨⟨1, ⟨1⟩⟩, [255]⟩, ⟨⟨1, ⟨1⟩⟩, message.record⟩] }

/-- The message goes to and fro between the two stations until its hop budget is spent. -/
theorem comes_to_rest_echo :
    0 < echo.inFlight.length ∧ (echo.step 0).potential < echo.potential ∧
      echo.Delivers [0, 0, 0, 0] ∧
      [0, 0, 0, 0].length + (echo.run [0, 0, 0, 0]).potential ≤ echo.potential := by
  have hfirst : 0 < echo.inFlight.length := by decide
  have hdelivers : echo.Delivers [0, 0, 0, 0] := by decide +kernel
  exact ⟨hfirst, comes_to_rest.1 echo 0 hfirst, hdelivers, comes_to_rest.2.1 echo _ hdelivers⟩

end Mesh

end RadioGossip
