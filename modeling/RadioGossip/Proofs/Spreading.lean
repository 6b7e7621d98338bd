import RadioGossip.Proofs.AckRecords
import RadioGossip.Proofs.Copies
import RadioGossip.Proofs.Outlines

/-!
# What a station makes of a flooded message

While one message is flooded and nothing else is sent, all that can come to a station is a copy of
that message, or a **receipt** for it: an acknowledgement, which nobody keeps or passes on.

A station **knows** the message once it holds one copy of it, which everyone who listens noted once.
Whatever it takes in, one of two things happens. It keeps quiet: its peers get nothing, and it knows
what it knew before. Or it did not know the message, which takes a copy whose path does not name it:
then it knows the message afterwards, every peer gets its copy unless the hop budget is spent, and at
most a receipt comes behind it.
-/

namespace RadioGossip

namespace Message

variable {message : Message}

/-- An acknowledgement that is neither kept nor passed on. -/
def IsReceipt (message : Message) : Prop := message.kind = .ack ∧ message.isNoCache = true

/-- A receipt is no copy of a message that is kept. -/
theorem isCopyOf_eq_false_of_isReceipt {receipt : Message} (h : receipt.IsReceipt)
    (hno : message.isNoCache = false) : receipt.isCopyOf message = false := by
  rw [Bool.eq_false_iff]
  intro hcopy
  have hreceipt := isNoCache_of_isCopyOf hcopy
  rw [h.2, hno] at hreceipt
  cases hreceipt

/-- The bytes are a receipt for the message, which asked for it. -/
def IsAnsweredBy (message : Message) (data : Bytes) : Prop :=
  message.isAckRequested = true ∧ ∃ receipt, decode data = .ok receipt ∧ receipt.IsReceipt

/-- The most frames that one peer gets when a station takes the message in. -/
def framesPerPeer (message : Message) : Nat := if message.isAckRequested then 2 else 1

end Message

/-! ## What is sent -/

namespace Engine

variable {engine : Engine} {message copy : Message} {wire : Bytes}

theorem decode_of_relayOf_eq_some (hcanonical : copy.IsCanonical) (h : relayOf copy = some wire) :
    Message.decode wire = .ok copy := by
  obtain ⟨-, hwire⟩ := relayOf_eq_some_iff.mp h
  obtain ⟨hfits, rfl⟩ := Message.encode_eq_ok_iff.mp hwire
  rw [Message.decode_record hfits, Message.canonical_eq_self_iff.mpr hcanonical]

theorem exists_relayOf_eq_some (hfits : copy.Fits) (httl : copy.ttl ≠ 0) :
    ∃ wire, relayOf copy = some wire :=
  ⟨copy.record, relayOf_eq_some_iff.mpr ⟨httl, Message.encode_of_fits hfits⟩⟩

/-- What answers a message is a receipt, and only a message that asked for it is answered. -/
theorem isAnsweredBy_of_replyTo_eq_some (h : engine.replyTo message = some wire) :
    message.IsAnsweredBy wire := by
  obtain ⟨hrequested, rfl⟩ := replyTo_eq_some_iff.mp h
  exact ⟨hrequested, _, engine.decode_acknowledgement message, rfl,
    engine.isNoCache_acknowledgement message⟩

/-- The decisions about a message that was accepted. -/
def acceptance (copy : Message) (reply : Option Bytes) : List Event :=
  .deliver copy :: ((relayOf copy).toList.map .relay ++ reply.toList.map .reply)

/-- A message that is new and can be written is accepted where it starts. -/
theorem spread_of_fits (hwrite : engine.readOnly = false) (hkept : message.isNoCache = false)
    (hnew : engine.cache.contains message.key = false)
    (hloop : message.path.contains engine.callsign = false)
    (hfits : (message.hop engine.callsign).Fits) :
    (engine.spread message).1.cache = (engine.cache.insert (message.hop engine.callsign)).1 ∧
      (engine.spread message).2 = .ok (acceptance (message.hop engine.callsign) none) := by
  obtain ⟨hcache, hevents⟩ :=
    spread_of_fresh hwrite hkept hnew hloop (Message.encode_of_fits hfits)
  refine ⟨hcache, ?_⟩
  rw [hevents, acceptance, Option.toList_none, List.map_nil, List.append_nil]

theorem delivery?_acceptance (copy : Message) (reply : Option Bytes) (sender : Option PeerId) :
    (acceptance copy reply).filterMap (·.delivery? sender) = [⟨copy, sender⟩] :=
  Event.delivery?_about copy (relayOf copy) reply sender

theorem framesFor_acceptance (copy : Message) (reply : Option Bytes) (sender : Option PeerId)
    (id : PeerId) :
    (acceptance copy reply).flatMap (·.framesFor sender id) =
      (relayOf copy).toList ++ if sender = some id then reply.toList else [] :=
  Event.framesFor_about copy (relayOf copy) reply sender id

end Engine

/-! ## What is known -/

namespace Station

variable {station after : Station} {message received : Message} {raw : Bytes}
  {sender : Option PeerId}

/-- What a station has of a flooded message: the copy that it took, if it did, noted once by
everyone who listens, and beside it receipts if the message asked for them. -/
structure Knows (station : Station) (message : Message) (copy : Option Message) : Prop where
  cached : station.node.cached = copy.toList
  isCopyOf : ∀ taken ∈ copy, taken.isCopyOf message = true
  noted : (station.log.filter fun entry => entry.delivery.message.isCopyOf message).map
    LogEntry.observer = copy.toList.flatMap fun _ => station.listeners
  others : ∀ entry ∈ station.log, entry.delivery.message.key = message.key →
    entry.delivery.message.isCopyOf message = true ∨
      message.isAckRequested = true ∧ entry.delivery.message.IsReceipt

/-- A station that holds nothing and never heard of the message does not know it. -/
theorem knows_none (hcached : station.node.cached = [])
    (hlog : ∀ entry ∈ station.log, entry.delivery.message.key ≠ message.key) :
    station.Knows message none where
  cached := hcached
  isCopyOf := by simp
  noted := List.map_eq_nil_iff.mpr (List.filter_eq_nil_iff.mpr fun entry hentry hcopy =>
    hlog entry hentry (Message.key_of_isCopyOf hcopy))
  others entry hentry hkey := absurd hkey (hlog entry hentry)

/-- Receipts change nothing about what is known. -/
theorem Knows.append_receipts {copy : Option Message} {noted : List LogEntry}
    (h : station.Knows message copy) (hno : message.isNoCache = false)
    (hcached : after.node.cached = station.node.cached) (hlog : after.log = station.log ++ noted)
    (hlisteners : after.listeners = station.listeners)
    (hnoted : ∀ entry ∈ noted, message.isAckRequested = true ∧ entry.delivery.message.IsReceipt) :
    after.Knows message copy where
  cached := hcached.trans h.cached
  isCopyOf := h.isCopyOf
  noted := by
    have hnone : (noted.filter fun entry => entry.delivery.message.isCopyOf message) = [] :=
      List.filter_eq_nil_iff.mpr fun entry hentry => by
        simp [Message.isCopyOf_eq_false_of_isReceipt (hnoted entry hentry).2 hno]
    rw [hlog, hlisteners, List.filter_append, hnone, List.append_nil, h.noted]
  others := by
    rw [hlog]
    exact List.forall_mem_append.mpr ⟨h.others, fun entry hentry _ => .inr (hnoted entry hentry)⟩

/-- The first copy makes the message known. -/
theorem Knows.append_copy {copy : Message} (h : station.Knows message none)
    (hcopy : copy.isCopyOf message = true) (hcached : after.node.cached = [copy])
    (hlog : after.log = station.log ++ station.listeners.map fun id => ⟨id, ⟨copy, sender⟩⟩)
    (hlisteners : after.listeners = station.listeners) : after.Knows message (some copy) where
  cached := hcached
  isCopyOf := by simp [hcopy]
  noted := by
    have hnone : (station.log.filter fun entry => entry.delivery.message.isCopyOf message) = [] :=
      List.map_eq_nil_iff.mp h.noted
    rw [hlog, hlisteners, List.filter_append, hnone]
    simp [List.filter_map, Function.comp_def, hcopy]
  others := by
    rw [hlog]
    refine List.forall_mem_append.mpr ⟨h.others, fun entry hentry _ => .inl ?_⟩
    obtain ⟨id, -, rfl⟩ := List.mem_map.mp hentry
    exact hcopy

theorem Knows.contains_iff {copy : Option Message} (h : station.Knows message copy) :
    station.node.engine.cache.contains message.key = copy.isSome := by
  have hcached : station.node.engine.cache.entries = copy.toList := h.cached
  cases copy with
  | none => simp [Cache.contains, hcached]
  | some taken =>
    have hkey := Message.key_of_isCopyOf (h.isCopyOf taken rfl)
    simp [Cache.contains, hcached, hkey]

/-! ## Responses -/

/-- What a station knows after it took something in, and the frames that its peers got. -/
structure Responds (message : Message) (before after : Station) (copy : Option Message)
    (frames : PeerId → List Bytes) : Prop where
  outline : after.outline = before.outline
  knows : after.Knows message copy
  peers : after.node.peers = before.node.peers.map fun peer => peer.queueAll (frames peer.id)

/-- Nothing becomes of what was here before, of a receipt, and of what is held already: the cache
stays, no peer gets anything, and all that is noted is the receipt. -/
theorem heard_handle_of_stale (hraw : Message.decode raw = .ok received)
    (hstale : received.path.contains station.callsign = true ∨ received.IsReceipt ∨
      received.isNoCache = false ∧ station.node.engine.cache.contains received.key = true) :
    ∃ engine noted, engine.cache = station.node.engine.cache ∧
      Heard { station with node := { station.node with engine } } (station.handle raw sender) noted ∧
      ∀ entry ∈ noted, entry.delivery.message = received ∧ received.IsReceipt ∧
        received.path.contains station.callsign = false := by
  obtain ⟨engine, events, hhandle, hcache, hevents⟩ : ∃ engine events,
      station.node.engine.handle raw = (engine, .ok events) ∧
      engine.cache = station.node.engine.cache ∧
      (events = [] ∨ events = [.deliver received] ∧ received.IsReceipt ∧
        received.path.contains station.callsign = false) := by
    cases hloop : received.path.contains station.node.engine.callsign with
    | true => exact ⟨_, _, Engine.handle_of_loop hraw hloop, rfl, .inl rfl⟩
    | false =>
      rcases hstale with hloop' | hreceipt | ⟨hkept, hcached⟩
      · rw [callsign, hloop] at hloop'
        cases hloop'
      · exact ⟨_, _, Engine.handle_of_noCache hraw hloop hreceipt.2, rfl,
          .inr ⟨rfl, hreceipt, hloop⟩⟩
      · exact ⟨_, _, Engine.handle_of_duplicate hraw hloop hkept hcached, rfl, .inl rfl⟩
  have hframes : ∀ id, events.flatMap (·.framesFor sender id) = [] := by
    rcases hevents with rfl | ⟨rfl, -⟩ <;> simp [Event.framesFor]
  have hdeliveries : ∀ delivery ∈ events.filterMap (·.delivery? sender),
      delivery.message = received ∧ received.IsReceipt ∧
        received.path.contains station.callsign = false := by
    rcases hevents with rfl | ⟨rfl, hreceipt⟩
    · simp
    · simpa [Event.delivery?] using hreceipt
  have hignores : ∀ delivery ∈ events.filterMap (·.delivery? sender),
      Ignores station.messageHandlers delivery.message := by
    intro delivery hdelivery hkind
    obtain ⟨hmessage, hreceipt, -⟩ := hdeliveries delivery hdelivery
    rw [hmessage, hreceipt.1] at hkind
    cases hkind
  have hheard := heard_handle (by rw [hhandle]; rfl) hignores
  rw [Node.queueEvents_of_no_frames hframes, hhandle] at hheard
  refine ⟨engine, _, hcache, hheard, fun entry hentry => ?_⟩
  simp only [List.mem_flatMap, List.mem_map] at hentry
  obtain ⟨delivery, hdelivery, id, -, rfl⟩ := hentry
  exact hdeliveries delivery hdelivery

/-- **Keeping quiet.** Nothing becomes of what was here before, of a receipt, and of what is known
already. -/
theorem responds_of_quiet {copy : Option Message} (h : station.Knows message copy)
    (hno : message.isNoCache = false) (hraw : Message.decode raw = .ok received)
    (hreceived : received.path.contains station.callsign = true ∨
      (message.isAckRequested = true ∧ received.IsReceipt) ∨
      (received.isCopyOf message = true ∧ copy.isSome = true)) :
    Responds message station (station.handle raw sender) copy fun _ => [] := by
  have hstale : received.path.contains station.callsign = true ∨ received.IsReceipt ∨
      received.isNoCache = false ∧ station.node.engine.cache.contains received.key = true := by
    refine hreceived.imp_right (Or.imp And.right ?_)
    rintro ⟨hcopy, hknown⟩
    rw [Message.isNoCache_of_isCopyOf hcopy, Message.key_of_isCopyOf hcopy, h.contains_iff]
    exact ⟨hno, hknown⟩
  obtain ⟨engine, noted, hcache, hheard, hnoted⟩ := heard_handle_of_stale hraw hstale
  refine ⟨outline_handle station raw sender, h.append_receipts hno ?_ hheard.log
    hheard.listeners_eq ?_, ?_⟩
  · rw [hheard.node]
    exact congrArg Cache.entries hcache
  · -- What is noted is no copy, so it is the receipt that the message asked for.
    intro entry hentry
    obtain ⟨hmessage, hreceipt, hloop⟩ := hnoted entry hentry
    rcases hreceived with hloop' | ⟨hrequested, -⟩ | ⟨hcopy, -⟩
    · rw [hloop] at hloop'
      cases hloop'
    · rw [hmessage]
      exact ⟨hrequested, hreceipt⟩
    · have hnot := Message.isCopyOf_eq_false_of_isReceipt hreceipt hno
      rw [hcopy] at hnot
      cases hnot
  · rw [hheard.node]
    simp only [Peer.queueAll_nil, List.map_id']

/-- The frames of a station that took a copy in: each peer gets the relay, if there is one, and at
most a receipt behind it. -/
structure Forwards (message copy : Message) (frames : PeerId → List Bytes) : Prop where
  length_le : ∀ id, (frames id).length ≤ message.framesPerPeer
  carried : ∀ id, ∀ data ∈ frames id,
    Engine.relayOf copy = some data ∨ message.IsAnsweredBy data
  relayed : ∀ wire, Engine.relayOf copy = some wire → ∀ id, wire ∈ frames id

theorem forwards_acceptance {copy : Message} {reply : Option Bytes}
    (hreply : ∀ wire ∈ reply, message.IsAnsweredBy wire) (sender : Option PeerId) :
    Forwards message copy fun id =>
      (Engine.acceptance copy reply).flatMap (·.framesFor sender id) where
  length_le id := by
    have hrelay : (Engine.relayOf copy).toList.length ≤ 1 := by cases Engine.relayOf copy <;> simp
    -- There is a reply only if the message asked for it, and then two frames are allowed.
    have hback : (if sender = some id then reply.toList else []).length + 1 ≤
        message.framesPerPeer := by
      rw [Message.framesPerPeer]
      cases reply with
      | none => split <;> split <;> simp
      | some wire =>
        rw [if_pos (hreply wire rfl).1]
        split <;> simp
    rw [Engine.framesFor_acceptance, List.length_append]
    omega
  carried id data hdata := by
    rw [Engine.framesFor_acceptance] at hdata
    rcases List.mem_append.mp hdata with hrelay | hback
    · exact .inl (Option.mem_toList.mp hrelay)
    · split at hback
      · exact .inr (hreply data (Option.mem_toList.mp hback))
      · cases hback
  relayed wire hwire id := by
    rw [Engine.framesFor_acceptance, hwire]
    exact List.mem_append_left _ List.mem_cons_self

/-- What the frames of a station that took a copy in say. -/
structure Passes (message copy : Message) (frames : PeerId → List Bytes) : Prop where
  length_le : ∀ id, (frames id).length ≤ message.framesPerPeer
  carried : ∀ id, ∀ data ∈ frames id,
    Message.decode data = .ok copy ∨ message.IsAnsweredBy data
  relayed : copy.Fits → copy.ttl ≠ 0 → ∀ id, ∃ data ∈ frames id, Message.decode data = .ok copy

theorem Forwards.passes {copy : Message} {frames : PeerId → List Bytes}
    (h : Forwards message copy frames) (hcanonical : copy.IsCanonical) :
    Passes message copy frames where
  length_le := h.length_le
  carried id data hdata :=
    (h.carried id data hdata).imp_left (Engine.decode_of_relayOf_eq_some hcanonical)
  relayed hfits httl id := by
    obtain ⟨wire, hwire⟩ := Engine.exists_relayOf_eq_some hfits httl
    exact ⟨wire, h.relayed wire hwire id, Engine.decode_of_relayOf_eq_some hcanonical hwire⟩

/-- A station after it accepted a copy. -/
theorem responds_of_heard {copy : Message} {reply : Option Bytes} {engine : Engine}
    (h : station.Knows message none) (hcopy : copy.isCopyOf message = true)
    (houtline : after.outline = station.outline) (hcached : engine.cache.entries = [copy])
    (hheard : Heard
      { station with
        node := { station.node with engine }.queueEvents sender (Engine.acceptance copy reply) }
      after (((Engine.acceptance copy reply).filterMap (·.delivery? sender)).flatMap fun delivery =>
        station.listeners.map fun id => ⟨id, delivery⟩)) :
    Responds message station after (some copy) fun id =>
      (Engine.acceptance copy reply).flatMap (·.framesFor sender id) := by
  rw [Engine.delivery?_acceptance, List.flatMap_singleton] at hheard
  refine ⟨houtline, h.append_copy hcopy ?_ hheard.log hheard.listeners_eq, ?_⟩
  · rw [hheard.node]
    exact hcached
  · rw [hheard.node]
    rfl

/-- Handlers that ignore a message ignore the deliveries of its copies. -/
theorem ignores_acceptance {copy : Message} {reply : Option Bytes}
    (h : Ignores station.messageHandlers message) (hcopy : copy.isCopyOf message = true) :
    ∀ delivery ∈ (Engine.acceptance copy reply).filterMap (·.delivery? sender),
      Ignores station.messageHandlers delivery.message := by
  rw [Engine.delivery?_acceptance]
  intro delivery hdelivery
  obtain rfl := List.mem_singleton.mp hdelivery
  obtain ⟨-, -, -, -, hkind, -⟩ := Message.isCopyOf_iff.mp hcopy
  exact fun hupdate => h (hkind.symm.trans hupdate)

/-- **Accepting a copy.** A station that does not know the message yet, and that the path of the copy
does not name, knows it afterwards and passes it on. -/
theorem responds_of_fresh (h : station.Knows message none) (hno : message.isNoCache = false)
    (hcanonical : message.IsCanonical) (hcapacity : 1 ≤ station.node.engine.cache.capacity)
    (hignores : Ignores station.messageHandlers message)
    (hraw : Message.decode raw = .ok received) (hreceived : received.isCopyOf message = true)
    (hloop : received.path.contains station.callsign = false) :
    ∃ frames, Responds message station (station.handle raw sender)
        (some (received.hop station.callsign)) frames ∧
      Passes message (received.hop station.callsign) frames := by
  have hno' : received.isNoCache = false := by rw [Message.isNoCache_of_isCopyOf hreceived, hno]
  have hfresh : station.node.engine.cache.contains received.key = false := by
    rw [Message.key_of_isCopyOf hreceived, h.contains_iff]
    rfl
  have hcopy := Message.isCopyOf_hop hreceived station.callsign
  obtain ⟨hcache, hevents⟩ := Engine.handle_of_fresh hraw hloop hno' hfresh
  refine ⟨_, responds_of_heard h hcopy (outline_handle station raw sender) ?_
    (heard_handle (congrArg Node.eventsOf hevents) (ignores_acceptance hignores hcopy)),
    (forwards_acceptance ?_ sender).passes (Message.isCanonical_of_isCopyOf hcopy hcanonical)⟩
  · rw [hcache]
    exact Cache.entries_insert_of_entries_eq_nil h.cached hcapacity _
  · intro wire hwire
    have hanswered := Engine.isAnsweredBy_of_replyTo_eq_some hwire
    rwa [Message.IsAnsweredBy, Message.isAckRequested_of_isCopyOf hreceived] at hanswered

/-- **Starting the flood.** The station that spreads the message knows it afterwards and passes it
on. -/
theorem responds_of_spread (h : station.Knows message none) (hno : message.isNoCache = false)
    (hcanonical : message.IsCanonical) (hcapacity : 1 ≤ station.node.engine.cache.capacity)
    (hignores : Ignores station.messageHandlers message)
    (hwrite : station.node.engine.readOnly = false)
    (hloop : message.path.contains station.callsign = false)
    (hfits : (message.hop station.callsign).Fits) :
    (station.spread message).2 = .ok () ∧ ∃ frames,
      Responds message station (station.spread message).1
          (some (message.hop station.callsign)) frames ∧
        Passes message (message.hop station.callsign) frames := by
  have hfresh : station.node.engine.cache.contains message.key = false := by
    rw [h.contains_iff]
    rfl
  have hcopy := Message.isCopyOf_hop message.isCopyOf_refl station.callsign
  obtain ⟨hcache, hevents⟩ := Engine.spread_of_fits hwrite hno hfresh hloop hfits
  obtain ⟨hok, hheard⟩ := heard_spread hevents (ignores_acceptance hignores hcopy)
  refine ⟨hok, _, responds_of_heard h hcopy (outline_spread station message) ?_ hheard,
    (forwards_acceptance (by simp) none).passes
      (Message.isCanonical_of_isCopyOf hcopy hcanonical)⟩
  rw [hcache]
  exact Cache.entries_insert_of_entries_eq_nil h.cached hcapacity _

end Station

end RadioGossip
