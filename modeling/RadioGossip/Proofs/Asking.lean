import RadioGossip.Proofs.Answering

/-!
# Asking

Whoever connects is asked. A query names as many keys from the front of the cache as **fill** one
update: their query fits, and that of one more would not. There is exactly one such number. So a query
can always be written, also by a station whose first key is too long for any update by itself: it
names none.
-/

namespace RadioGossip

/-- Whatever goes to make room for it, a frame comes to stand last. -/
theorem Outbox.exists_contents_push (outbox : Outbox) (data : Bytes) :
    ∃ kept, kept <:+ outbox.contents ∧ (outbox.push data).contents = kept ++ [data] := by
  refine ⟨_, List.drop_suffix (outbox.size + 1 - outbox.capacity) outbox.contents, ?_⟩
  simp only [push, contents, List.map_append, List.map_drop, List.map_cons, List.map_nil]

namespace Reconciliation

variable {keys : List Key} {count : Nat}

/-! ## Filling an update -/

/-- So many keys from the front of a list **fill** an update: their query fits it, and they are all
the keys there are, or the query of one more is too long. -/
structure Fills (count : Nat) (keys : List Key) : Prop where
  le_length : count ≤ keys.length
  fits : ∃ wire, CacheQuery.encode ⟨keys.take count⟩ = .ok wire ∧
    wire.length ≤ Update.maxDataLength
  maximal : count = keys.length ∨ ∃ wire, CacheQuery.encode ⟨keys.take (count + 1)⟩ = .ok wire ∧
    Update.maxDataLength < wire.length

theorem fitting_lt_maxEntryCount (keys : List Key) : fitting keys < maxEntryCount := by
  have hlength : (queryOf keys).keys.length = fitting keys :=
    List.length_take_of_le (fitting_le_length keys)
  rw [← hlength]
  exact length_queryOf_lt keys

theorem fills_fitting (keys : List Key) : Fills (fitting keys) keys where
  le_length := fitting_le_length keys
  fits := ⟨_, encode_queryOf keys, length_record_queryOf_le keys⟩
  maximal := by
    rcases Nat.eq_or_lt_of_le (fitting_le_length keys) with hall | hmore
    · exact .inl hall
    · have hlong := mt (le_fitting_iff hmore).mpr (Nat.not_succ_le_self _)
      refine .inr ⟨_, CacheQuery.encode_eq_ok_iff.mpr ⟨?_, rfl⟩, Nat.not_le.mp hlong⟩
      exact Nat.le_trans (List.length_take_le _ _) (fitting_lt_maxEntryCount keys)

/-- **Exactly one number of keys fills an update**, and a query names that many. -/
theorem fills_iff : Fills count keys ↔ count = fitting keys := by
  constructor
  · intro h
    obtain ⟨wire, hwire, hfits⟩ := h.fits
    obtain ⟨-, rfl⟩ := CacheQuery.encode_eq_ok_iff.mp hwire
    refine Nat.le_antisymm ((le_fitting_iff h.le_length).mpr hfits) ?_
    rcases h.maximal with hall | ⟨wire, hwire, hlong⟩
    · exact hall ▸ fitting_le_length keys
    · -- More would take in the key that is too many.
      obtain ⟨-, rfl⟩ := CacheQuery.encode_eq_ok_iff.mp hwire
      apply Nat.le_of_not_lt
      intro hlt
      have hcount : count + 1 ≤ keys.length := Nat.le_trans hlt (fitting_le_length keys)
      exact absurd ((le_fitting_iff hcount).mp hlt) (Nat.not_le.mpr hlong)
  · rintro rfl
    exact fills_fitting keys

/-! ## Queries -/

/-- **A query is always sent, and it is as long as can be.** Of every list of keys exactly as many
fit as fill an update. Whatever a node holds, when a peer connects, then the peer with this number
gets one frame as the last in its outbox, the other peers stay as they are, the query is counted, and
nothing else changes but the number of the next message. The frame is a message of the node itself
without caching, hop budget and path. It carries the keys of the oldest messages in the cache, in
their order and as they come back from the wire, as many as fill an update. -/
theorem query_is_sent :
    (∀ keys count, Fills count keys ↔ count = fitting keys) ∧
    ∀ (stats : ReconcileStats) (node : Node) (peer : PeerId),
      ∃ frame payload query node',
        peerConnected stats node peer = ({ stats with queries := stats.queries + 1 }, node') ∧
        node' =
          { node with
            nextSequence := node.nextSequence + 1
            peers := node.peers.map fun other =>
              if other.id = peer then other.queue frame else other } ∧
        (node.IsNumbered → ∀ new ∈ node.peers, new.id = peer → ∃ before behind kept,
          node.peers = before ++ new :: behind ∧
            node'.peers = before ++ new.queue frame :: behind ∧
            kept <:+ new.outbox.contents ∧
            (new.queue frame).outbox.contents = kept ++ [frame]) ∧
        Message.decode frame = .ok
          { Message.make node.self.canonical node.nextSequence .update payload with
            flags := Message.noCacheFlag } ∧
        Update.decode payload = .ok ⟨.cacheRequest, query⟩ ∧
        CacheQuery.decode query = .ok
          ⟨(node.cached.take (fitting (node.cached.map Message.key))).map (·.key.canonical)⟩ := by
  refine ⟨fun _ _ => fills_iff, fun stats node peer => ?_⟩
  have hlength := length_record_queryOf_le node.engine.cache.keys
  refine ⟨(question node).record, _, (queryOf node.engine.cache.keys).record, _,
    peerConnected_eq stats node peer, rfl, ?_, decode_record_carrier hlength,
    Update.decode_record hlength, ?_⟩
  · rintro hnumbered new hnew rfl
    obtain ⟨before, behind, hpeers, hpeers'⟩ := hnumbered.peers_updatePeer hnew (·.queue _)
    obtain ⟨kept, hkept, hcontents⟩ := new.outbox.exists_contents_push (question node).record
    exact ⟨before, behind, kept, hpeers, hpeers', hkept, hcontents⟩
  · rw [decode_record_queryOf, named, Cache.keys, ← List.map_take, List.map_map]
    rfl

/-- Two stations whose first key is so long that its query fits to the last byte, or by one byte does
not. Behind it stands a short key. The first station names the long key and nothing else, the second
one names none, and the second of their two neighbours gets the query. -/
theorem query_is_sent_to_the_last_byte :
    let long : IpRecord := ⟨.other 9, .replicate 255 0, by decide +kernel⟩
    let short : IpRecord := ⟨.v4, .replicate 240 0, by decide +kernel⟩
    let full : Contact := ⟨.user, [], .replicate 254 long ++ [short], by decide, by decide +kernel⟩
    let wide : Contact := ⟨.user, [67], .replicate 254 long ++ [short], by decide, by decide +kernel⟩
    let settings : NodeSettings := { peers := [⟨"b", 1⟩, ⟨"c", 2⟩] }
    let new := Peer.new ⟨2⟩ (.outbound ⟨"c", 2⟩) settings.queueSize settings.retries
    let node (first : Contact) : Node :=
      { Node.new (.ofLetter 65) settings 9 with
        engine.cache := ⟨8, [.make first 1 .cq [], .make (.ofLetter 66) 2 .cq []]⟩ }
    let sends (first : Contact) (named : List Key) : Prop :=
      new ∈ (node first).peers ∧ ∃ frame payload query node',
        peerConnected {} (node first) new.id = ({ queries := 1 }, node') ∧
        node'.nextSequence = 10 ∧ node'.cached = (node first).cached ∧
        node'.peers.map (·.outbox.contents) = [[], [frame]] ∧
        Message.decode frame = .ok
          { Message.make (.ofLetter 65) 9 .update payload with flags := Message.noCacheFlag } ∧
        Update.decode payload = .ok ⟨.cacheRequest, query⟩ ∧
        CacheQuery.decode query = .ok ⟨named⟩
    Fills 1 [⟨1, full⟩, ⟨2, .ofLetter 66⟩] ∧ Fills 0 [⟨1, wide⟩, ⟨2, .ofLetter 66⟩] ∧
      sends full [Key.canonical ⟨1, full⟩] ∧ sends wide [] := by
  intro long short full wide settings new node sends
  obtain ⟨hfills, hsent⟩ := query_is_sent
  have hfull : 1 = fitting [⟨1, full⟩, ⟨2, .ofLetter 66⟩] := by decide +kernel
  have hwide : 0 = fitting [⟨1, wide⟩, ⟨2, .ofLetter 66⟩] := by decide +kernel
  have hbare : (Node.new (.ofLetter 65) settings 9).IsNumbered := ⟨by decide, by decide⟩
  have hsends : ∀ first count, count = fitting [⟨1, first⟩, ⟨2, .ofLetter 66⟩] →
      sends first (([⟨1, first⟩, ⟨2, .ofLetter 66⟩].take count).map Key.canonical) := by
    intro first count hcount
    obtain ⟨frame, payload, query, node', hqueued, rfl, hlast, hframe, hpayload, hquery⟩ :=
      hsent {} (node first) new.id
    have hnumbered : (node first).IsNumbered := ⟨hbare.nodup, hbare.lt_nextPeer⟩
    have hnew : new ∈ (node first).peers := .tail _ (.head _)
    obtain ⟨_, _, kept, -, -, hkept, hcontents⟩ := hlast hnumbered new hnew rfl
    refine ⟨hnew, frame, payload, query, _, hqueued, rfl, rfl, ?_, hframe, hpayload, ?_⟩
    · have hempty : kept = [] := List.suffix_nil.mp hkept
      rw [hempty] at hcontents
      exact congrArg ([[], ·]) hcontents
    · have hkeys : (node first).cached.map Message.key = [⟨1, first⟩, ⟨2, .ofLetter 66⟩] := rfl
      rw [hquery, hkeys, ← hcount, ← hkeys, List.map_take, List.map_take, List.map_map]
      rfl
  exact ⟨(hfills _ _).mpr hfull, (hfills _ _).mpr hwide, hsends full 1 hfull, hsends wide 0 hwide⟩

end Reconciliation

end RadioGossip
