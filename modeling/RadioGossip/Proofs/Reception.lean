import RadioGossip.Proofs.Readiness
import RadioGossip.Proofs.Requests

/-!
# What a station with room makes of a copy

A station may hold a lot already when a flood begins. As long as its cache has room, nothing that it
held is lost: the first copy of the message that comes stands behind all of it, and is passed on. What
comes later, or comes round, or is a receipt, changes nothing that is held and is not answered.
-/

namespace RadioGossip

namespace Station

variable {station after : Station} {message received : Message} {raw : Bytes}
  {sender : Option PeerId}

/-- What a station keeps and sends when something comes to it: behind all that it held there is the
copy that it took, if it took one, and its peers got these frames. -/
structure Receives (before after : Station) (taken : Option Message)
    (frames : PeerId → List Bytes) : Prop where
  outline : after.outline = before.outline
  cached : after.node.cached = before.node.cached ++ taken.toList
  peers : after.node.peers = before.node.peers.map fun peer => peer.queueAll (frames peer.id)

/-- What brings nothing new leaves no trace in the cache, and nothing is sent. -/
theorem receives_of_stale (hraw : Message.decode raw = .ok received)
    (hstale : received.path.contains station.callsign = true ∨ received.IsReceipt ∨
      received.isNoCache = false ∧ station.node.engine.cache.contains received.key = true) :
    Receives station (station.handle raw sender) none fun _ => [] := by
  obtain ⟨engine, noted, hcache, hheard, -⟩ := heard_handle_of_stale hraw hstale
  refine ⟨outline_handle station raw sender, ?_, ?_⟩
  · rw [hheard.node, Option.toList_none, List.append_nil]
    exact congrArg Cache.entries hcache
  · rw [hheard.node]
    simp only [Peer.queueAll_nil, List.map_id']

/-- A station after it accepted a copy that its cache had room for. -/
theorem receives_of_heard {copy : Message} {reply : Option Bytes} {engine : Engine}
    {noted : List LogEntry} (houtline : after.outline = station.outline)
    (hroom : station.node.engine.cache.size < station.node.engine.cache.capacity)
    (hnew : station.node.engine.cache.contains copy.key = false)
    (hcache : engine.cache = (station.node.engine.cache.insert copy).1)
    (hheard : Heard
      { station with
        node := { station.node with engine }.queueEvents sender (Engine.acceptance copy reply) }
      after noted) :
    Receives station after (some copy) fun id =>
      (Engine.acceptance copy reply).flatMap (·.framesFor sender id) := by
  refine ⟨houtline, ?_, ?_⟩
  · rw [hheard.node]
    rw [Cache.insert_of_room hroom hnew] at hcache
    exact congrArg Cache.entries hcache
  · rw [hheard.node]
    rfl

/-- **The first copy** is kept and passed on. -/
theorem receives_of_fresh (hkept : message.isNoCache = false)
    (hroom : station.node.engine.cache.size < station.node.engine.cache.capacity)
    (hnew : station.node.engine.cache.contains message.key = false)
    (hignores : Ignores station.messageHandlers message)
    (hraw : Message.decode raw = .ok received) (hreceived : received.isCopyOf message = true)
    (hloop : received.path.contains station.callsign = false) :
    ∃ frames, Receives station (station.handle raw sender)
        (some (received.hop station.callsign)) frames ∧
      Forwards message (received.hop station.callsign) frames := by
  have hcopy := Message.isCopyOf_hop hreceived station.callsign
  have hkept' : received.isNoCache = false := by
    rwa [Message.isNoCache_of_isCopyOf hreceived]
  obtain ⟨hcache, hevents⟩ := Engine.handle_of_fresh hraw hloop hkept' (by
    rwa [Message.key_of_isCopyOf hreceived])
  refine ⟨_, receives_of_heard (outline_handle station raw sender) hroom ?_ hcache
    (heard_handle (congrArg Node.eventsOf hevents) (ignores_acceptance hignores hcopy)),
    forwards_acceptance ?_ sender⟩
  · rwa [Message.key_of_isCopyOf hcopy]
  · intro wire hwire
    have hanswered := Engine.isAnsweredBy_of_replyTo_eq_some hwire
    rwa [Message.IsAnsweredBy, Message.isAckRequested_of_isCopyOf hreceived] at hanswered

/-- **The station that spreads the message** keeps it and passes it on. -/
theorem receives_of_spread (hkept : message.isNoCache = false)
    (hroom : station.node.engine.cache.size < station.node.engine.cache.capacity)
    (hnew : station.node.engine.cache.contains message.key = false)
    (hignores : Ignores station.messageHandlers message)
    (hwrite : station.node.engine.readOnly = false)
    (hloop : message.path.contains station.callsign = false)
    (hfits : (message.hop station.callsign).Fits) :
    (station.spread message).2 = .ok () ∧ ∃ frames,
      Receives station (station.spread message).1
          (some (message.hop station.callsign)) frames ∧
        Forwards message (message.hop station.callsign) frames := by
  have hcopy := Message.isCopyOf_hop message.isCopyOf_refl station.callsign
  obtain ⟨hcache, hevents⟩ := Engine.spread_of_fits hwrite hkept hnew hloop hfits
  obtain ⟨hok, hheard⟩ := heard_spread hevents (ignores_acceptance hignores hcopy)
  refine ⟨hok, _, receives_of_heard (outline_spread station message) hroom ?_ hcache hheard,
    forwards_acceptance (by simp) none⟩
  rwa [Message.key_of_isCopyOf hcopy]

end Station

end RadioGossip
