import Mathlib.Data.List.Induction
import Mathlib.Data.List.Perm.Subperm
import Mathlib.Order.Bounds.Defs
import RadioGossip.Proofs.Lifecycles
import RadioGossip.Proofs.Rosters

/-!
# Streams that come in

A running node accepts one stream at a time: it picks the peer that the stream goes to, and binds it
before it accepts another one. All the while connections are lost, outbound peers are dialled, and
frames are sent, before the stream is bound too.

A **switchboard** is a node together with the streams that it accepted. It remembers which peer each
of them went to, and those that are **live**: they were accepted, and were not hung up since. The
invariant is that the connection of an inbound peer is that of a stream which was bound to it, and
that no two live streams go to one peer. So the peer that is picked has none, and there are just as
many inbound peers from an address as there were ever live streams from it at once.
-/

namespace RadioGossip

/-- An accepted stream, and the peer that it goes to. -/
structure InboundStream where
  remote : Endpoint
  connection : ConnectionId
  peer : PeerId
  deriving DecidableEq, Repr

/-- A node with the streams that it accepted. -/
structure Switchboard where
  node : Node
  /-- Every stream that was accepted. -/
  accepted : List InboundStream := []
  /-- The streams that were bound, and were not hung up since. -/
  bound : List InboundStream := []
  /-- The stream that is still to be bound. -/
  pending : Option InboundStream := none

/-- What may happen at a running node. -/
inductive SwitchboardMove where
  /-- A stream is accepted and its peer is picked, if no other one is still to be bound. -/
  | accept (remote : Endpoint) (connection : ConnectionId)
  /-- The accepted stream is bound. -/
  | bind
  /-- Something else happens to a peer. -/
  | change (id : PeerId) (move : PeerMove)

namespace Peer

/-- Whether a move is for a peer of this kind. Inbound peers are not dialled, they get no streams but
the accepted ones, and they are closed only when the node stops. -/
def mayMove (peer : Peer) : PeerMove → Bool
  | .beginConnect | .setConnection _ | .close => !peer.isInbound
  | _ => true

/-- The peer after a move, if the move is for it, and the connections that it hangs up. -/
def moveOn (peer : Peer) (move : PeerMove) : Peer × List ConnectionId :=
  if peer.mayMove move then peer.step move else (peer, [])

end Peer

namespace Switchboard

/-- The streams that are live. The one that is still to be bound is live already. -/
def live (board : Switchboard) : List InboundStream := board.bound ++ board.pending.toList

/-- The streams that are left when a peer hangs some connections up. -/
def without (id : PeerId) (hungUp : List ConnectionId) (streams : List InboundStream) :
    List InboundStream :=
  streams.filter fun stream => ¬(stream.peer = id ∧ stream.connection ∈ hungUp)

/-- The switchboard after a move. -/
def after (board : Switchboard) : SwitchboardMove → Switchboard
  | .accept remote connection =>
    if board.pending.isSome then board
    else
      let (node, id) := board.node.bindInbound remote
      let stream := ⟨remote, connection, id⟩
      { board with node, accepted := board.accepted ++ [stream], pending := some stream }
  | .bind =>
    match board.pending with
    | none => board
    | some stream =>
      let (node, hungUp) := board.node.setConnection stream.peer stream.connection
      { board with
        node
        bound := without stream.peer hungUp (board.bound ++ [stream])
        pending := none }
  | .change id move =>
    let (node, hungUp) := board.node.changePeer id (·.moveOn move)
    { board with node, bound := without id hungUp board.bound }

/-- The switchboard after some moves, the first of them first. -/
def afterAll (board : Switchboard) (moves : List SwitchboardMove) : Switchboard :=
  moves.foldl after board

/-- How many live streams come from an address. -/
def liveFrom (ip : IpAddress) (board : Switchboard) : Nat :=
  board.live.countP fun stream => stream.remote.ip = ip

end Switchboard

/-! ## Inbound peers -/

namespace Peer

variable {peer other : Peer} {move : PeerMove} {connection : ConnectionId} {ip : IpAddress}

/-- An inbound peer is ready for streams: it is not closed, and it is not being dialled. -/
structure IsReady (peer : Peer) : Prop where
  isCoherent : peer.IsCoherent
  not_closed : peer.closed = false
  not_connecting : peer.state ≠ .connecting

theorem isReady_new (id : PeerId) (origin : Origin) (queueSize retryBudget : Nat) :
    (new id origin queueSize retryBudget).IsReady :=
  ⟨isCoherent_new id origin queueSize retryBudget, rfl, nofun⟩

theorem IsReady.disconnected_iff (h : peer.IsReady) :
    peer.state = .disconnected ↔ peer.connection = none := by
  have hactive := h.isCoherent.active_iff
  have hdialled := h.not_connecting
  rw [← Option.isSome_iff_exists] at hactive
  cases hconnection : peer.connection <;> cases hstate : peer.state <;> simp_all

/-- A ready peer takes a stream, and hangs up none. -/
theorem IsReady.setConnection_of_none (h : peer.IsReady) (hnone : peer.connection = none)
    (connection : ConnectionId) :
    peer.setConnection connection = ({ peer with
      state := .active, connection := some connection, failures := 0 }, []) := by
  simp [setConnection, h.not_closed, hnone]

theorem IsReady.setConnection (h : peer.IsReady) (connection : ConnectionId) :
    (peer.setConnection connection).1.IsReady := by
  have hopen : (peer.setConnection connection).1 =
      { peer with state := .active, connection := some connection, failures := 0 } := by
    simp [Peer.setConnection, h.not_closed]
  rw [hopen]
  exact ⟨⟨by simp, by simp [h.not_closed]⟩, h.not_closed, by simp⟩

/-- A move that is for an inbound peer keeps it ready. -/
theorem IsReady.moveOn (h : peer.IsReady) (hinbound : peer.isInbound = true) (move : PeerMove) :
    (peer.moveOn move).1.IsReady := by
  rw [Peer.moveOn]
  split
  · next hmay =>
    have hsucceeds := peer.succeeds_step move
    refine ⟨h.isCoherent.of_relinks (peer.relinks_step move), ?_, fun hdials => ?_⟩
    · refine Bool.eq_false_iff.mpr fun hclosed => ?_
      rcases hsucceeds.closed_iff.mp hclosed with hclosed | rfl
      · rw [h.not_closed] at hclosed
        cases hclosed
      · simp [mayMove, hinbound] at hmay
    · rcases hsucceeds.dials hdials with hdials | rfl
      · exact h.not_connecting hdials
      · simp [mayMove, hinbound] at hmay
  · exact h

/-- What is bound to an inbound peer stays bound until it is hung up. -/
theorem connection_moveOn (hinbound : peer.isInbound = true) :
    (peer.moveOn move).1.connection = some connection ↔
      peer.connection = some connection ∧ connection ∉ (peer.moveOn move).2 := by
  rw [moveOn]
  split
  · next hmay =>
    cases peer.relinks_step move with
    | kept hconnection _ _ _ hhungUp =>
      rw [hconnection]
      exact ⟨fun hbound => ⟨hbound, fun hgone => (hhungUp connection hgone).1 hbound⟩, And.left⟩
    | unbound hconnection _ hhungUp =>
      rw [hconnection, hhungUp, not_or]
      exact ⟨nofun, fun ⟨hbound, hkept, _⟩ => absurd hbound hkept⟩
    | rebound _ hmove => simp [hmove, mayMove, hinbound] at hmay
  · simp

theorem isSame_step (peer : Peer) (move : PeerMove) : peer.IsSame (peer.step move).1 where
  id_eq := (peer.succeeds_step move).id_eq
  origin_eq := (peer.succeeds_step move).origin_eq

theorem isSame_moveOn (peer : Peer) (move : PeerMove) : peer.IsSame (peer.moveOn move).1 := by
  rw [moveOn]
  split
  · exact peer.isSame_step move
  · exact .refl peer

end Peer

/-! ## Switchboards in order -/

namespace Switchboard

variable {board after : Switchboard} {peer : Peer} {ip : IpAddress} {remote : Endpoint}
  {stream : InboundStream}

/-- A stream goes to an inbound peer of the node, which comes from the address of the stream. -/
def IsPlaced (node : Node) (stream : InboundStream) : Prop :=
  ∃ peer ∈ node.peers, peer.id = stream.peer ∧ peer.isFrom stream.remote.ip = true

/-- The streams of a switchboard are where they belong. -/
structure InOrder (board : Switchboard) : Prop where
  isNumbered : board.node.IsNumbered
  isReady : ∀ peer ∈ board.node.peers, peer.isInbound = true → peer.IsReady
  isPlaced : ∀ stream ∈ board.accepted, IsPlaced board.node stream
  live_subset : board.live ⊆ board.accepted
  /-- No two live streams go to one peer. -/
  nodup : (board.live.map InboundStream.peer).Nodup
  /-- An inbound peer has the connection of a stream that is bound. -/
  connection_iff : ∀ peer ∈ board.node.peers, peer.isInbound = true → ∀ connection,
    peer.connection = some connection ↔
      ∃ stream ∈ board.bound, stream.peer = peer.id ∧ stream.connection = connection

theorem live_of_idle (hidle : board.pending = none) : board.live = board.bound := by
  rw [live, hidle, Option.toList_none, List.append_nil]

theorem live_of_pending (hpending : board.pending = some stream) :
    board.live = board.bound ++ [stream] := by
  rw [live, hpending, Option.toList_some]

/-- A connection of a peer is left unless it was hung up by this peer. -/
theorem exists_mem_without_iff {id peer : PeerId} {hungUp : List ConnectionId}
    {streams : List InboundStream} {connection : ConnectionId} :
    (∃ stream ∈ without id hungUp streams, stream.peer = peer ∧ stream.connection = connection) ↔
      (∃ stream ∈ streams, stream.peer = peer ∧ stream.connection = connection) ∧
        ¬(peer = id ∧ connection ∈ hungUp) := by
  simp only [without, List.mem_filter, decide_eq_true_iff]
  constructor
  · rintro ⟨stream, ⟨hstream, hkept⟩, rfl, rfl⟩
    exact ⟨⟨stream, hstream, rfl, rfl⟩, hkept⟩
  · rintro ⟨⟨stream, hstream, rfl, rfl⟩, hkept⟩
    exact ⟨stream, ⟨hstream, hkept⟩, rfl, rfl⟩

/-- A move that leaves every peer the one it is, and by which no stream becomes live. -/
theorem InOrder.of_map {change : Peer → Peer} (h : board.InOrder)
    (hpeers : after.node.peers = board.node.peers.map change)
    (hnext : after.node.nextPeer = board.node.nextPeer)
    (hsame : ∀ peer : Peer, peer.IsSame (change peer))
    (hready : ∀ peer ∈ board.node.peers, peer.isInbound = true → (change peer).IsReady)
    (hconnection : ∀ peer ∈ board.node.peers, peer.isInbound = true → ∀ connection,
      (change peer).connection = some connection ↔
        ∃ stream ∈ after.bound, stream.peer = peer.id ∧ stream.connection = connection)
    (haccepted : after.accepted = board.accepted) (hlive : after.live.Sublist board.live) :
    after.InOrder := by
  have hid : Peer.id ∘ change = Peer.id := funext fun peer => (hsame peer).id_eq
  refine ⟨⟨?_, ?_⟩, ?_, ?_, ?_, ?_, ?_⟩
  · rw [hpeers, List.map_map, hid]
    exact h.isNumbered.nodup
  · rw [hpeers, hnext]
    intro _ hmem
    obtain ⟨peer, hpeer, rfl⟩ := List.mem_map.mp hmem
    rw [(hsame peer).id_eq]
    exact h.isNumbered.lt_nextPeer peer hpeer
  · rw [hpeers]
    intro _ hmem hinbound
    obtain ⟨peer, hpeer, rfl⟩ := List.mem_map.mp hmem
    exact hready peer hpeer ((hsame peer).isInbound_eq ▸ hinbound)
  · rw [haccepted]
    intro stream hstream
    obtain ⟨peer, hpeer, hgoes, hcomes⟩ := h.isPlaced stream hstream
    refine ⟨change peer, hpeers ▸ List.mem_map_of_mem hpeer, ?_, ?_⟩
    · rw [(hsame peer).id_eq, hgoes]
    · rw [(hsame peer).isFrom_eq, hcomes]
  · rw [haccepted]
    exact List.Subset.trans hlive.subset h.live_subset
  · exact h.nodup.sublist (hlive.map _)
  · rw [hpeers]
    intro _ hmem hinbound
    obtain ⟨peer, hpeer, rfl⟩ := List.mem_map.mp hmem
    rw [(hsame peer).id_eq]
    exact hconnection peer hpeer ((hsame peer).isInbound_eq ▸ hinbound)

/-- **What happens to a peer** beside the streams that it gets. -/
theorem InOrder.change (h : board.InOrder) (id : PeerId) (move : PeerMove) :
    (board.after (.change id move)).InOrder := by
  have hpeers := board.node.peers_changePeer id (·.moveOn move)
  have hsame := Node.isSame_changePeer (fun peer => peer.isSame_moveOn move) id
  refine h.of_map hpeers rfl hsame ?_ ?_ rfl ?_
  · intro peer hpeer hinbound
    split
    · exact (h.isReady peer hpeer hinbound).moveOn hinbound move
    · exact h.isReady peer hpeer hinbound
  · intro peer hpeer hinbound connection
    have hconnection := h.connection_iff peer hpeer hinbound connection
    refine Iff.trans ?_ exists_mem_without_iff.symm
    rw [← hconnection]
    split
    · next hid =>
      subst hid
      have hgone : connection ∈ (board.node.changePeer peer.id (·.moveOn move)).2 ↔
          connection ∈ (peer.moveOn move).2 := h.isNumbered.mem_hungUp_iff hpeer
      rw [Peer.connection_moveOn hinbound, and_iff_right rfl]
      exact and_congr_right fun _ => not_congr hgone.symm
    · next hid => exact (and_iff_left fun hgone => hid hgone.1).symm
  · exact (List.filter_sublist).append_right _

/-- The peer that a stream is to be bound to has no connection. -/
theorem InOrder.exists_free (h : board.InOrder) (hpending : board.pending = some stream) :
    ∃ peer ∈ board.node.peers, peer.id = stream.peer ∧ peer.isFrom stream.remote.ip = true ∧
      peer.state = .disconnected ∧ peer.connection = none := by
  have hlive := live_of_pending hpending
  have hstream : stream ∈ board.live := hlive ▸ List.mem_append_right _ (List.mem_singleton_self _)
  obtain ⟨peer, hpeer, hgoes, hcomes⟩ := h.isPlaced stream (h.live_subset hstream)
  have hinbound := Peer.isInbound_of_isFrom hcomes
  have hnone : peer.connection = none := by
    refine Option.eq_none_iff_forall_ne_some.mpr fun connection hconnection => ?_
    obtain ⟨other, hother, hsame, -⟩ :=
      (h.connection_iff peer hpeer hinbound connection).mp hconnection
    have hnodup := h.nodup
    rw [hlive, List.map_append] at hnodup
    exact (List.nodup_append.mp hnodup).2.2 _ (List.mem_map_of_mem hother) _
      (List.mem_singleton_self _) (hsame.trans hgoes)
  exact ⟨peer, hpeer, hgoes, hcomes,
    (h.isReady peer hpeer hinbound).disconnected_iff.mpr hnone, hnone⟩

/-- No connection is hung up for a stream that is bound. -/
theorem InOrder.hungUp_eq_nil (h : board.InOrder) (hpending : board.pending = some stream) :
    (board.node.setConnection stream.peer stream.connection).2 = [] := by
  obtain ⟨peer, hpeer, hgoes, hcomes, -, hnone⟩ := h.exists_free hpending
  have hready := h.isReady peer hpeer (Peer.isInbound_of_isFrom hcomes)
  refine List.eq_nil_iff_forall_not_mem.mpr fun connection hmem => ?_
  rw [Node.setConnection, ← hgoes, h.isNumbered.mem_hungUp_iff hpeer,
    hready.setConnection_of_none hnone] at hmem
  cases hmem

/-- **A stream is bound.** -/
theorem InOrder.bind (h : board.InOrder) : (board.after .bind).InOrder := by
  cases hpending : board.pending with
  | none =>
    have hsame : board.after .bind = board := by rw [Switchboard.after, hpending]
    rw [hsame]
    exact h
  | some stream =>
    have hafter : board.after .bind = { board with
        node := (board.node.setConnection stream.peer stream.connection).1
        bound := board.bound ++ [stream]
        pending := none } := by
      simp [Switchboard.after, hpending, without, h.hungUp_eq_nil hpending]
    obtain ⟨free, hfree, hgoes, -, -, hnone⟩ := h.exists_free hpending
    rw [hafter]
    have hsame := Node.isSame_changePeer
      (fun peer => peer.isSame_step (.setConnection stream.connection)) stream.peer
    refine h.of_map (Node.peers_changePeer _ _ _) rfl hsame ?_ ?_ rfl ?_
    · intro peer hpeer hinbound
      split
      · exact (h.isReady peer hpeer hinbound).setConnection stream.connection
      · exact h.isReady peer hpeer hinbound
    · intro peer hpeer hinbound connection
      have hconnection := h.connection_iff peer hpeer hinbound connection
      have hmem : (∃ other ∈ board.bound ++ [stream],
          other.peer = peer.id ∧ other.connection = connection) ↔
          peer.connection = some connection ∨
            stream.peer = peer.id ∧ stream.connection = connection := by
        rw [hconnection]
        simp only [List.mem_append, List.mem_singleton, or_and_right, exists_or, exists_eq_left]
      rw [hmem]
      split
      · next hid =>
        obtain rfl := h.isNumbered.eq_of_id_eq hpeer hfree (hid.trans hgoes.symm)
        rw [(h.isReady peer hpeer hinbound).setConnection_of_none hnone]
        simp [hnone, hid]
      · next hid => simp [Ne.symm hid]
    · rw [live_of_pending hpending, live_of_idle rfl]

/-- A node may get another peer. -/
theorem InOrder.addPeer (h : board.InOrder) (origin : Origin) :
    InOrder { board with node := (board.node.addPeer origin).1 } := by
  refine ⟨h.isNumbered.addPeer origin, ?_, ?_, h.live_subset, h.nodup, ?_⟩
  · intro peer hpeer hinbound
    rcases List.mem_append.mp hpeer with hpeer | hpeer
    · exact h.isReady peer hpeer hinbound
    · obtain rfl := List.mem_singleton.mp hpeer
      exact Peer.isReady_new _ _ _ _
  · intro stream hstream
    obtain ⟨peer, hpeer, hgoes, hcomes⟩ := h.isPlaced stream hstream
    exact ⟨peer, List.mem_append_left _ hpeer, hgoes, hcomes⟩
  · intro peer hpeer hinbound connection
    rcases List.mem_append.mp hpeer with hpeer | hpeer
    · exact h.connection_iff peer hpeer hinbound connection
    · obtain rfl := List.mem_singleton.mp hpeer
      refine ⟨nofun, fun ⟨stream, hstream, hgoes, _⟩ => ?_⟩
      -- The streams go to older peers.
      obtain ⟨old, hold, hid, -⟩ :=
        h.isPlaced stream (h.live_subset (List.mem_append_left _ hstream))
      have hlt := h.isNumbered.lt_nextPeer old hold
      rw [hid.trans hgoes] at hlt
      exact absurd hlt (Nat.lt_irrefl _)

/-- A stream may go to any peer from its address that has no connection. -/
theorem InOrder.receive (h : board.InOrder) (hidle : board.pending = none) {peer : Peer}
    (hpeer : peer ∈ board.node.peers) (hcomes : peer.isFrom remote.ip = true)
    (hnone : peer.connection = none) (connection : ConnectionId) :
    InOrder { board with
      accepted := board.accepted ++ [⟨remote, connection, peer.id⟩]
      pending := some ⟨remote, connection, peer.id⟩ } := by
  have hlive := live_of_idle hidle
  refine ⟨h.isNumbered, h.isReady, ?_, ?_, ?_, h.connection_iff⟩
  · intro stream hstream
    rcases List.mem_append.mp hstream with hstream | hstream
    · exact h.isPlaced stream hstream
    · obtain rfl := List.mem_singleton.mp hstream
      exact ⟨peer, hpeer, rfl, hcomes⟩
  · refine List.append_subset.mpr ⟨?_, List.subset_append_right _ _⟩
    exact fun stream hstream => List.mem_append_left _ (h.live_subset (hlive ▸ hstream))
  · have hnodup := h.nodup
    rw [hlive] at hnodup
    rw [live, List.map_append]
    refine List.nodup_append.mpr ⟨hnodup, List.nodup_singleton _, ?_⟩
    intro id hid new hnew
    obtain ⟨stream, hstream, rfl⟩ := List.mem_map.mp hid
    obtain rfl := List.mem_singleton.mp hnew
    intro hgoes
    have hbound := (h.connection_iff peer hpeer (Peer.isInbound_of_isFrom hcomes) _).mpr
      ⟨stream, hstream, hgoes, rfl⟩
    rw [hnone] at hbound
    cases hbound

/-- **A stream is accepted.** -/
theorem InOrder.accept (h : board.InOrder) (remote : Endpoint) (connection : ConnectionId) :
    (board.after (.accept remote connection)).InOrder := by
  simp only [Switchboard.after]
  split
  · exact h
  · next hidle =>
    have hidle : board.pending = none := Option.not_isSome_iff_eq_none.mp hidle
    rcases board.node.bindInbound_cases remote with
      ⟨peer, hpeer, hwaits, hpicked⟩ | ⟨-, hpicked⟩
    · obtain ⟨hcomes, hdisconnected⟩ := Peer.isWaitingFor_iff.mp hwaits
      have hready := h.isReady peer hpeer (Peer.isInbound_of_isFrom hcomes)
      rw [hpicked]
      exact h.receive hidle hpeer hcomes (hready.disconnected_iff.mp hdisconnected) connection
    · rw [hpicked]
      have hnew : Peer.new ⟨board.node.nextPeer⟩ (.inbound remote) board.node.settings.queueSize
          board.node.settings.retries ∈ (board.node.addPeer (.inbound remote)).1.peers :=
        List.mem_append_right _ (List.mem_singleton_self _)
      exact (h.addPeer (.inbound remote)).receive hidle hnew (decide_eq_true rfl) rfl connection

theorem InOrder.step (h : board.InOrder) (move : SwitchboardMove) : (board.after move).InOrder := by
  cases move with
  | accept remote connection => exact h.accept remote connection
  | bind => exact h.bind
  | change id move => exact h.change id move

/-! ## How many there are -/

/-- There are no more items of one kind than of another if each has a partner with the same key, and
the keys of the first ones differ. -/
theorem countP_le_countP_of_keys {α β κ : Type} {items : List α} {partners : List β}
    {key : α → κ} (key' : β → κ) {isOne : α → Bool} {isOther : β → Bool}
    (hnodup : (items.map key).Nodup)
    (hpartner : ∀ item ∈ items, isOne item = true →
      ∃ partner ∈ partners, isOther partner = true ∧ key' partner = key item) :
    items.countP isOne ≤ partners.countP isOther := by
  have hnodup' : ((items.filter isOne).map key).Nodup :=
    hnodup.sublist (List.filter_sublist.map _)
  have hsubset : (items.filter isOne).map key ⊆ (partners.filter isOther).map key' := by
    intro _ hmem
    obtain ⟨item, hitem, rfl⟩ := List.mem_map.mp hmem
    obtain ⟨hitem, hone⟩ := List.mem_filter.mp hitem
    obtain ⟨partner, hmem, hother, hkey⟩ := hpartner item hitem hone
    exact List.mem_map.mpr ⟨partner, List.mem_filter.mpr ⟨hmem, hother⟩, hkey⟩
  have hle := (List.subperm_of_subset hnodup' hsubset).length_le
  rwa [List.length_map, List.length_map, ← List.countP_eq_length_filter,
    ← List.countP_eq_length_filter] at hle

/-- Every live stream from an address has a peer of its own. -/
theorem InOrder.liveFrom_le (h : board.InOrder) (ip : IpAddress) :
    board.liveFrom ip ≤ board.node.peersFrom ip := by
  refine countP_le_countP_of_keys Peer.id h.nodup fun stream hlive hcomes => ?_
  obtain rfl := of_decide_eq_true hcomes
  obtain ⟨peer, hpeer, hgoes, hfrom⟩ := h.isPlaced stream (h.live_subset hlive)
  exact ⟨peer, hpeer, hfrom, hgoes⟩

/-- If no peer waits for a stream from an address, each one from there has a live stream. -/
theorem InOrder.peersFrom_le (h : board.InOrder)
    (hnone : ∀ peer ∈ board.node.peers, ¬Node.isWaitingFor ip peer = true) :
    board.node.peersFrom ip ≤ board.liveFrom ip := by
  refine countP_le_countP_of_keys InboundStream.peer h.isNumbered.nodup
    fun peer hpeer hcomes => ?_
  have hinbound := Peer.isInbound_of_isFrom hcomes
  have hbusy : peer.connection ≠ none := fun hfree => hnone peer hpeer
    (Peer.isWaitingFor_iff.mpr
      ⟨hcomes, (h.isReady peer hpeer hinbound).disconnected_iff.mpr hfree⟩)
  obtain ⟨connection, hconnection⟩ := Option.ne_none_iff_exists'.mp hbusy
  obtain ⟨stream, hstream, hgoes, -⟩ :=
    (h.connection_iff peer hpeer hinbound connection).mp hconnection
  have hlive : stream ∈ board.live := List.mem_append_left _ hstream
  obtain ⟨other, hother, hid, hfrom⟩ := h.isPlaced stream (h.live_subset hlive)
  obtain rfl := h.isNumbered.eq_of_id_eq hother hpeer (hid.trans hgoes)
  exact ⟨stream, hlive, decide_eq_true (Peer.isFrom_inj hfrom hcomes), hgoes⟩

/-- An inbound peer joins for a stream, because no other one waits for it. -/
structure Joins (board after : Switchboard) (stream : InboundStream) : Prop where
  not_isWaitingFor : ∀ peer ∈ board.node.peers, ¬Node.isWaitingFor stream.remote.ip peer = true
  peers_eq : ∃ peer : Peer, peer.origin = .inbound stream.remote ∧
    after.node.peers = board.node.peers ++ [peer]
  live_eq : after.live = board.live ++ [stream]

/-- The peers stay the ones they are, or a new one joins. -/
theorem keeps_or_joins (board : Switchboard) (move : SwitchboardMove) :
    board.node.Keeps (board.after move).node ∨ ∃ stream, board.Joins (board.after move) stream := by
  cases move with
  | accept remote connection =>
    simp only [Switchboard.after]
    split
    · exact .inl (Node.keeps_of_peers_eq rfl)
    · next hidle =>
      have hidle : board.pending = none := Option.not_isSome_iff_eq_none.mp hidle
      rcases board.node.bindInbound_cases remote with
        ⟨peer, -, -, hpicked⟩ | ⟨hnone, hpicked⟩
      · rw [hpicked]
        exact .inl (Node.keeps_of_peers_eq rfl)
      · rw [hpicked]
        refine .inr ⟨⟨remote, connection, ⟨board.node.nextPeer⟩⟩, hnone, ⟨_, rfl, rfl⟩, ?_⟩
        rw [live_of_idle hidle]
        rfl
  | bind =>
    simp only [Switchboard.after]
    split
    · exact .inl (Node.keeps_of_peers_eq rfl)
    · exact .inl (Node.keeps_changePeer (fun peer => peer.isSame_step (.setConnection _)) _)
  | change id move =>
    exact .inl (Node.keeps_changePeer (fun peer => peer.isSame_moveOn move) id)

/-- The peers from an address grow in number only to be as many as the live streams from there. -/
theorem InOrder.peersFrom_after (h : board.InOrder) (move : SwitchboardMove) (ip : IpAddress) :
    (board.after move).node.peersFrom ip = board.node.peersFrom ip ∨
      board.node.peersFrom ip ≤ (board.after move).node.peersFrom ip ∧
        (board.after move).node.peersFrom ip = (board.after move).liveFrom ip := by
  rcases board.keeps_or_joins move with hkeeps | ⟨stream, hjoins⟩
  · exact .inl (hkeeps.peersFrom_eq ip)
  · obtain ⟨peer, horigin, hpeers⟩ := hjoins.peers_eq
    rw [Node.peersFrom, hpeers, liveFrom, hjoins.live_eq, List.countP_append, List.countP_append,
      List.countP_singleton, List.countP_singleton, Peer.isFrom, horigin]
    by_cases hip : stream.remote.ip = ip
    · have heq : board.node.peersFrom ip = board.liveFrom ip :=
        Nat.le_antisymm (h.peersFrom_le (hip ▸ hjoins.not_isWaitingFor)) (h.liveFrom_le ip)
      exact .inr ⟨Nat.le_add_right _ _, congrArg (· + _) heq⟩
    · simp only [hip, decide_false]
      exact .inl rfl

theorem outbound_after (board : Switchboard) (move : SwitchboardMove) :
    (board.after move).node.outbound = board.node.outbound := by
  rcases board.keeps_or_joins move with hkeeps | ⟨stream, hjoins⟩
  · exact hkeeps.outbound_eq
  · obtain ⟨peer, horigin, hpeers⟩ := hjoins.peers_eq
    have hinbound : (!peer.isInbound) = false := by rw [Peer.isInbound, horigin]; rfl
    rw [Node.outbound, hpeers, List.filter_append, List.filter_singleton, hinbound]
    simp [Node.outbound]

/-! ## Runs -/

theorem inOrder_foldl_addPeer {node : Node} (h : InOrder { node }) (addresses : List PeerAddress) :
    InOrder { node := addresses.foldl (fun node address =>
      (node.addPeer (.outbound address)).1) node } := by
  induction addresses generalizing node with
  | nil => exact h
  | cons address addresses ih => exact ih (h.addPeer (.outbound address))

theorem inOrder_new (self : Contact) (settings : NodeSettings) (clock : UInt64) :
    InOrder { node := Node.new self settings clock } := by
  refine inOrder_foldl_addPeer ?_ settings.peers
  exact ⟨⟨List.nodup_nil, nofun⟩, nofun, nofun, List.nil_subset _, List.nodup_nil, nofun⟩

/-- **A run** of moves keeps the streams in order. -/
theorem InOrder.afterAll (h : board.InOrder) (moves : List SwitchboardMove) :
    (board.afterAll moves).InOrder := by
  induction moves generalizing board with
  | nil => exact h
  | cons move moves ih => exact ih (h.step move)

theorem outbound_afterAll (board : Switchboard) (moves : List SwitchboardMove) :
    (board.afterAll moves).node.outbound = board.node.outbound := by
  induction moves generalizing board with
  | nil => rfl
  | cons move moves ih => exact (ih (board.after move)).trans (board.outbound_after move)

theorem afterAll_concat (board : Switchboard) (moves : List SwitchboardMove)
    (move : SwitchboardMove) :
    board.afterAll (moves ++ [move]) = (board.afterAll moves).after move := by
  rw [afterAll, List.foldl_append]
  rfl

/-- Over a run the peers from an address become as many as there were live streams from there at
most. -/
theorem InOrder.isGreatest_peersFrom (h : board.InOrder)
    (hstart : board.node.peersFrom ip = board.liveFrom ip) (moves : List SwitchboardMove) :
    IsGreatest {count | ∃ earlier, earlier <+: moves ∧ (board.afterAll earlier).liveFrom ip = count}
      ((board.afterAll moves).node.peersFrom ip) := by
  induction moves using List.reverseRecOn with
  | nil =>
    refine ⟨⟨[], List.prefix_rfl, hstart.symm⟩, ?_⟩
    rintro _ ⟨earlier, hearlier, rfl⟩
    obtain rfl := List.prefix_nil.mp hearlier
    exact Nat.le_of_eq hstart.symm
  | append_singleton moves move ih =>
    obtain ⟨⟨peak, hpeak, hmost⟩, hbound⟩ := ih
    have horder := h.afterAll moves
    have hlast := (h.afterAll (moves ++ [move])).liveFrom_le ip
    have hgrows := horder.peersFrom_after move ip
    rw [← afterAll_concat] at hgrows
    refine ⟨?_, ?_⟩
    · rcases hgrows with hsame | ⟨-, hgrown⟩
      · exact ⟨peak, hpeak.trans (List.prefix_append _ _), hmost.trans hsame.symm⟩
      · exact ⟨moves ++ [move], List.prefix_rfl, hgrown.symm⟩
    · rintro _ ⟨earlier, hearlier, rfl⟩
      rcases List.prefix_concat_iff.mp hearlier with rfl | hearlier
      · exact hlast
      · have hle := hbound ⟨earlier, hearlier, rfl⟩
        rcases hgrows with hsame | ⟨hmore, -⟩
        · exact hsame ▸ hle
        · exact Nat.le_trans hle hmore

/-- To accept a stream and to bind it comes to what a node does at once if nothing intervenes. -/
theorem node_bind_accept (hidle : board.pending = none) (remote : Endpoint)
    (connection : ConnectionId) :
    ((board.after (.accept remote connection)).after .bind).node =
      (board.node.accept remote connection).1 := by
  simp [after, hidle, Node.accept]

/-- **Accepted streams find a free peer of their own.** Whatever happened at a new node, at which one
stream at a time was accepted and bound: the peers have numbers of their own. A stream that is to be
bound goes to a peer that is disconnected, and hangs up no connection. To accept a stream and to bind
it right away is what a node does that is not interrupted. No two live streams go to one peer, and the connections of the inbound peers are those of the streams that were bound and not hung
up since. Every stream that was ever accepted went to an inbound peer that was made for its address.
The outbound peers are those that the node was made with. And from each address there are as many
inbound peers as there were ever live streams at once. -/
theorem streams_find_free_peers (self : Contact) (settings : NodeSettings) (clock : UInt64)
    (moves : List SwitchboardMove) :
    let start : Switchboard := { node := Node.new self settings clock }
    let board := start.afterAll moves
    (board.node.peers.map Peer.id).Nodup ∧
    (∀ stream, board.pending = some stream →
      (∃ peer ∈ board.node.peers, peer.id = stream.peer ∧
        peer.isFrom stream.remote.ip = true ∧ peer.state = .disconnected) ∧
      (board.node.setConnection stream.peer stream.connection).2 = []) ∧
    (board.pending = none → ∀ remote connection,
      ((board.after (.accept remote connection)).after .bind).node =
        (board.node.accept remote connection).1) ∧
    (board.live.map InboundStream.peer).Nodup ∧
    (∀ peer ∈ board.node.peers, peer.isInbound = true → ∀ connection,
      peer.connection = some connection ↔
        ∃ stream ∈ board.bound, stream.peer = peer.id ∧ stream.connection = connection) ∧
    (∀ stream ∈ board.accepted, ∃ peer ∈ board.node.peers, peer.id = stream.peer ∧
      peer.isFrom stream.remote.ip = true) ∧
    board.node.outbound =
      settings.peers.mapIdx (fun index address => (⟨index + 1⟩, .outbound address)) ∧
    ∀ ip, IsGreatest
      {count | ∃ earlier, earlier <+: moves ∧ (start.afterAll earlier).liveFrom ip = count}
      (board.node.peersFrom ip) := by
  intro start board
  have hstart : start.InOrder := inOrder_new self settings clock
  have horder : board.InOrder := hstart.afterAll moves
  refine ⟨horder.isNumbered.nodup, fun stream hpending => ⟨?_, horder.hungUp_eq_nil hpending⟩,
    node_bind_accept, horder.nodup, horder.connection_iff, horder.isPlaced, ?_, fun ip => ?_⟩
  · obtain ⟨peer, hpeer, hgoes, hcomes, hfree, -⟩ := horder.exists_free hpending
    exact ⟨peer, hpeer, hgoes, hcomes, hfree⟩
  · exact (start.outbound_afterAll moves).trans Node.outbound_new
  · exact hstart.isGreatest_peersFrom (Node.peersFrom_new ip) moves

/-- Two streams from one address are live at once. When the first one is lost, a third one takes its
place, and two peers are enough. The node can accept one more. -/
theorem streams_find_free_peers_two_at_once :
    let ip := IpAddress.v4 10 0 0 1
    let self : Contact := ⟨.user, [65], [], by decide, by decide⟩
    let start : Switchboard := { node := Node.new self {} 0 }
    let moves : List SwitchboardMove := [.accept ⟨ip, 1⟩ ⟨1⟩, .bind, .accept ⟨ip, 2⟩ ⟨2⟩, .bind,
      .change ⟨1⟩ (.connectionLost ⟨1⟩), .accept ⟨ip, 3⟩ ⟨3⟩, .bind]
    (start.afterAll moves).live.map InboundStream.peer = [⟨2⟩, ⟨1⟩] ∧
      (start.afterAll moves).pending = none ∧
      (((start.afterAll moves).after (.accept ⟨ip, 4⟩ ⟨4⟩)).after .bind).node =
        ((start.afterAll moves).node.accept ⟨ip, 4⟩ ⟨4⟩).1 ∧
      IsGreatest {count | ∃ earlier, earlier <+: moves ∧
        (start.afterAll earlier).liveFrom ip = count} 2 := by
  intro ip self start moves
  have htwo : (start.afterAll moves).node.peersFrom ip = 2 := by decide +kernel
  have hidle : (start.afterAll moves).pending = none := by decide +kernel
  obtain ⟨-, -, haccept, -, -, -, -, hpeak⟩ := streams_find_free_peers self {} 0 moves
  exact ⟨by decide +kernel, hidle, haccept hidle ⟨ip, 4⟩ ⟨4⟩, htwo ▸ hpeak ip⟩

end Switchboard

end RadioGossip
