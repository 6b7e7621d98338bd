import Mathlib.Data.List.Nodup
import RadioGossip.Node.Binding

/-!
# The peers on the list of a node

A node gives every peer a number of its own. Afterwards a peer is still **the same** whatever
happens to it: it keeps its number, and it keeps its origin, so an inbound peer goes on to belong to
the address that it was made for.
-/

namespace RadioGossip

namespace Peer

variable {peer other : Peer} {ip : IpAddress}

/-- Whether the peer is an inbound one from this address. -/
def isFrom (ip : IpAddress) (peer : Peer) : Bool :=
  match peer.origin with
  | .inbound remote => remote.ip = ip
  | .outbound _ => false

theorem isInbound_of_isFrom (h : peer.isFrom ip = true) : peer.isInbound = true := by
  cases horigin : peer.origin with
  | inbound remote => simp [isInbound, horigin]
  | outbound address => simp [isFrom, horigin] at h

theorem isFrom_inj {ip' : IpAddress} (h : peer.isFrom ip = true) (h' : peer.isFrom ip' = true) :
    ip = ip' := by
  cases horigin : peer.origin with
  | inbound remote =>
    simp only [isFrom, horigin, decide_eq_true_eq] at h h'
    exact h.symm.trans h'
  | outbound address => simp [isFrom, horigin] at h

theorem isWaitingFor_iff :
    Node.isWaitingFor ip peer = true ↔ peer.isFrom ip = true ∧ peer.state = .disconnected := by
  cases horigin : peer.origin <;> simp [Node.isWaitingFor, isFrom, horigin]

/-- A peer is still the one it was. -/
structure IsSame (peer other : Peer) : Prop where
  id_eq : other.id = peer.id
  origin_eq : other.origin = peer.origin

theorem IsSame.isInbound_eq (h : peer.IsSame other) : other.isInbound = peer.isInbound := by
  simp only [isInbound, h.origin_eq]

theorem IsSame.isFrom_eq (h : peer.IsSame other) (ip : IpAddress) :
    other.isFrom ip = peer.isFrom ip := by
  simp only [isFrom, h.origin_eq]

@[refl] theorem IsSame.refl (peer : Peer) : peer.IsSame peer := ⟨rfl, rfl⟩

end Peer

namespace Node

variable {node : Node} {peer other : Peer} {ip : IpAddress} {remote : Endpoint}

/-- The peers of a node are still the ones they were. -/
def Keeps (before after : Node) : Prop :=
  ∃ change : Peer → Peer, (∀ peer : Peer, peer.IsSame (change peer)) ∧
    after.peers = before.peers.map change

/-- How many inbound peers come from an address. -/
def peersFrom (ip : IpAddress) (node : Node) : Nat := node.peers.countP (Peer.isFrom ip)

/-- The outbound peers of a node. -/
def outbound (node : Node) : List (PeerId × Origin) :=
  (node.peers.filter fun peer => !peer.isInbound).map fun peer => (peer.id, peer.origin)

theorem keeps_of_peers_eq {after : Node} (h : after.peers = node.peers) : node.Keeps after :=
  ⟨id, Peer.IsSame.refl, by rw [h, List.map_id]⟩

theorem Keeps.peersFrom_eq {after : Node} (h : node.Keeps after) (ip : IpAddress) :
    after.peersFrom ip = node.peersFrom ip := by
  obtain ⟨change, hsame, hpeers⟩ := h
  rw [peersFrom, hpeers, List.countP_map]
  exact List.countP_congr fun peer _ => by
    rw [Function.comp_apply, (hsame peer).isFrom_eq ip]

theorem Keeps.outbound_eq {after : Node} (h : node.Keeps after) :
    after.outbound = node.outbound := by
  obtain ⟨change, hsame, hpeers⟩ := h
  have hkind : (fun peer => !peer.isInbound) ∘ change = fun peer => !peer.isInbound :=
    funext fun peer => by rw [Function.comp_apply, (hsame peer).isInbound_eq]
  rw [outbound, hpeers, List.filter_map, hkind, List.map_map]
  exact List.map_congr_left fun peer _ => by
    rw [Function.comp_apply, (hsame peer).id_eq, (hsame peer).origin_eq]

theorem peers_changePeer (node : Node) (id : PeerId) (change : Peer → Peer × List ConnectionId) :
    (node.changePeer id change).1.peers =
      node.peers.map fun peer => if peer.id = id then (change peer).1 else peer := by
  simp only [changePeer, List.map_map]
  refine List.map_congr_left fun peer _ => ?_
  simp only [Function.comp_apply]
  split <;> rfl

theorem isSame_changePeer {change : Peer → Peer × List ConnectionId}
    (hsame : ∀ peer : Peer, peer.IsSame (change peer).1) (id : PeerId) (peer : Peer) :
    peer.IsSame (if peer.id = id then (change peer).1 else peer) := by
  split
  · exact hsame peer
  · exact .refl peer

theorem keeps_changePeer {change : Peer → Peer × List ConnectionId}
    (hsame : ∀ peer : Peer, peer.IsSame (change peer).1) (id : PeerId) :
    node.Keeps (node.changePeer id change).1 :=
  ⟨_, isSame_changePeer hsame id, node.peers_changePeer id change⟩

theorem mem_hungUp_changePeer {id : PeerId} {change : Peer → Peer × List ConnectionId}
    {connection : ConnectionId} :
    connection ∈ (node.changePeer id change).2 ↔
      ∃ peer ∈ node.peers, peer.id = id ∧ connection ∈ (change peer).2 := by
  simp only [changePeer, List.mem_flatMap, List.mem_map]
  constructor
  · rintro ⟨_, ⟨peer, hpeer, rfl⟩, hmem⟩
    split at hmem
    · next hid => exact ⟨peer, hpeer, hid, hmem⟩
    · cases hmem
  · rintro ⟨peer, hpeer, hid, hmem⟩
    exact ⟨_, ⟨peer, hpeer, rfl⟩, by rwa [if_pos hid]⟩

/-- The peers of a node have numbers of their own, below the next one. -/
structure IsNumbered (node : Node) : Prop where
  nodup : (node.peers.map Peer.id).Nodup
  lt_nextPeer : ∀ peer ∈ node.peers, peer.id.number < node.nextPeer

theorem IsNumbered.eq_of_id_eq (h : node.IsNumbered) (hpeer : peer ∈ node.peers)
    (hother : other ∈ node.peers) (hid : peer.id = other.id) : peer = other :=
  List.inj_on_of_nodup_map h.nodup hpeer hother hid

/-- A change of one peer leaves those before and behind it as they are. -/
theorem IsNumbered.peers_updatePeer (h : node.IsNumbered) (hpeer : peer ∈ node.peers)
    (change : Peer → Peer) :
    ∃ before behind, node.peers = before ++ peer :: behind ∧
      (node.updatePeer peer.id change).peers = before ++ change peer :: behind := by
  obtain ⟨before, behind, hpeers⟩ := List.append_of_mem hpeer
  refine ⟨before, behind, hpeers, ?_⟩
  have hnodup := h.nodup
  rw [hpeers, List.map_append, List.map_cons] at hnodup
  obtain ⟨-, hbehind, hapart⟩ := List.nodup_append.mp hnodup
  have hsame : ∀ others : List Peer, (∀ other ∈ others, other.id ≠ peer.id) →
      others.map (fun other => if other.id = peer.id then change other else other) = others := by
    intro others hothers
    refine (List.map_congr_left fun other hother => ?_).trans (List.map_id others)
    exact if_neg (hothers other hother)
  have hleft := hsame before fun other hother =>
    hapart _ (List.mem_map_of_mem hother) _ List.mem_cons_self
  have hright := hsame behind fun other hother heq =>
    (List.nodup_cons.mp hbehind).1 (heq ▸ List.mem_map_of_mem hother)
  simp only [updatePeer, hpeers, List.map_append, List.map_cons, if_pos, hleft, hright]

theorem IsNumbered.mem_hungUp_iff (h : node.IsNumbered) (hpeer : peer ∈ node.peers)
    {change : Peer → Peer × List ConnectionId} {connection : ConnectionId} :
    connection ∈ (node.changePeer peer.id change).2 ↔ connection ∈ (change peer).2 := by
  rw [mem_hungUp_changePeer]
  constructor
  · rintro ⟨other, hother, hid, hmem⟩
    exact h.eq_of_id_eq hother hpeer hid ▸ hmem
  · exact fun hmem => ⟨peer, hpeer, rfl, hmem⟩

theorem IsNumbered.addPeer (h : node.IsNumbered) (origin : Origin) :
    (node.addPeer origin).1.IsNumbered := by
  refine ⟨?_, fun peer hpeer => ?_⟩
  · simp only [Node.addPeer, List.map_append, List.map_cons, List.map_nil]
    refine List.nodup_append.mpr ⟨h.nodup, List.nodup_singleton _, ?_⟩
    intro id hid new hnew
    obtain ⟨peer, hpeer, rfl⟩ := List.mem_map.mp hid
    obtain rfl := List.mem_singleton.mp hnew
    intro heq
    have hlt := h.lt_nextPeer peer hpeer
    rw [heq] at hlt
    exact Nat.lt_irrefl _ hlt
  · rcases List.mem_append.mp hpeer with hpeer | hpeer
    · exact Nat.lt_succ_of_lt (h.lt_nextPeer peer hpeer)
    · obtain rfl := List.mem_singleton.mp hpeer
      exact Nat.lt_succ_self _

/-- The peer that a stream goes to is there already, or it is a new one. -/
theorem bindInbound_cases (node : Node) (remote : Endpoint) :
    (∃ peer ∈ node.peers, isWaitingFor remote.ip peer = true ∧
      node.bindInbound remote = (node, peer.id)) ∨
    (∀ peer ∈ node.peers, ¬isWaitingFor remote.ip peer = true) ∧
      node.bindInbound remote = node.addPeer (.inbound remote) := by
  simp only [bindInbound]
  cases hfind : node.peers.find? (isWaitingFor remote.ip) with
  | some peer =>
    exact .inl ⟨peer, List.mem_of_find?_eq_some hfind, List.find?_some hfind, rfl⟩
  | none => exact .inr ⟨List.find?_eq_none.mp hfind, rfl⟩

/-! ## New nodes -/

variable {self : Contact} {settings : NodeSettings} {clock : UInt64}

/-- A new node has outbound peers only. -/
theorem isInbound_of_mem_new (hpeer : peer ∈ (new self settings clock).peers) :
    peer.isInbound = false := by
  rw [peers_new] at hpeer
  obtain ⟨index, hindex, rfl⟩ := List.mem_mapIdx.mp hpeer
  rfl

theorem peersFrom_new (ip : IpAddress) : (new self settings clock).peersFrom ip = 0 := by
  refine List.countP_eq_zero.mpr fun peer hpeer hcomes => ?_
  exact Bool.eq_false_iff.mp (isInbound_of_mem_new hpeer) (Peer.isInbound_of_isFrom hcomes)

theorem outbound_new : (new self settings clock).outbound =
    settings.peers.mapIdx fun index address => (⟨index + 1⟩, .outbound address) := by
  have hall : ∀ peer ∈ (new self settings clock).peers, (!peer.isInbound) = true :=
    fun peer hpeer => by rw [isInbound_of_mem_new hpeer]; rfl
  rw [outbound, List.filter_eq_self.mpr hall, peers_new]
  simp [List.ext_getElem_iff, Peer.new]

end Node

end RadioGossip
