import RadioGossip.Proofs.Spreading
import RadioGossip.Proofs.UpdateRecords

/-!
# What a station sends

A station that takes something in **sends** frames: its peers get them into their outboxes. There are
two kinds. A **relay** goes to every peer; it is what became of the message, which was to be kept, on
its hop through the station. A **reply** goes to the peer that the message came from: an
acknowledgement, or the answer of a reconciler to a query. A reply is neither kept nor passed on, and
it is itself no query, so it calls for nothing in return.
-/

namespace RadioGossip

/-! ## Replies -/

namespace Message

/-- Whether the message is an update that asks for an answer. -/
def isQuery (message : Message) : Bool :=
  match message.kind, Update.decode message.payload with
  | .update, .ok update => update.operation = .cacheRequest
  | _, _ => false

/-- The message calls for nothing: it is neither kept nor passed on, and it asks for nothing. -/
structure IsReply (message : Message) : Prop where
  noCache : message.isNoCache = true
  ttl : message.ttl = 0
  not_isQuery : message.isQuery = false

/-- A message of a station that carries an update to its neighbour. -/
structure Carries (message : Message) (update : Update) : Prop where
  kind : message.kind = .update
  noCache : message.isNoCache = true
  ttl : message.ttl = 0
  path : message.path = .empty
  payload : Update.decode message.payload = .ok update

theorem Carries.isReply {message : Message} {data : Bytes}
    (h : message.Carries ⟨.cacheResponse, data⟩) : message.IsReply where
  noCache := h.noCache
  ttl := h.ttl
  not_isQuery := by simp [isQuery, h.kind, h.payload]

end Message

/-- The bytes are a reply. -/
def IsReplyFrame (data : Bytes) : Prop :=
  ∃ message, Message.decode data = .ok message ∧ message.IsReply

namespace Engine

/-- An acknowledgement is a reply. -/
theorem isReplyFrame_of_replyTo_eq_some {engine : Engine} {message : Message} {wire : Bytes}
    (h : engine.replyTo message = some wire) : IsReplyFrame wire := by
  obtain ⟨-, rfl⟩ := replyTo_eq_some_iff.mp h
  exact ⟨_, engine.decode_acknowledgement message, engine.isNoCache_acknowledgement message, rfl,
    rfl⟩

end Engine

/-! ## Outboxes -/

namespace Node

/-- The peers of a node get these frames, in order. -/
def Sends (before after : Node) (frames : PeerId → List Bytes) : Prop :=
  after.peers = before.peers.map fun peer => peer.queueAll (frames peer.id)

theorem sends_of_peers_eq {before after : Node} (h : after.peers = before.peers) :
    before.Sends after fun _ => [] := by
  simp [Sends, h, Peer.queueAll]

theorem Sends.trans {first second third : Node} {frames frames' : PeerId → List Bytes}
    (h : first.Sends second frames) (h' : second.Sends third frames') :
    first.Sends third fun id => frames id ++ frames' id := by
  rw [Sends, h', h, List.map_map]
  refine List.map_congr_left fun peer _ => ?_
  simp [Peer.queueAll_eq, Outbox.pushAll]

theorem Sends.congr {before after : Node} {frames frames' : PeerId → List Bytes}
    (h : before.Sends after frames) (heq : ∀ id, frames id = frames' id) :
    before.Sends after frames' := by
  rwa [← funext heq]

theorem sends_queue (node : Node) (id : PeerId) (data : Bytes) :
    node.Sends (node.queue id data) fun other => if some id = some other then [data] else [] := by
  simp only [Sends, queue, updatePeer, Option.some.injEq]
  refine List.map_congr_left fun peer _ => ?_
  by_cases h : peer.id = id
  · simp [h, Peer.queueAll]
  · simp [h, Ne.symm h, Peer.queueAll]

/-- Frames that go back to where something came from, joined. -/
theorem Sends.trans_back {first second third : Node} {sender : Option PeerId}
    {replies replies' : List Bytes}
    (h : first.Sends second fun id => if sender = some id then replies else [])
    (h' : second.Sends third fun id => if sender = some id then replies' else []) :
    first.Sends third fun id => if sender = some id then replies ++ replies' else [] := by
  refine (h.trans h').congr fun id => ?_
  by_cases hsender : sender = some id <;> simp [hsender]

end Node

/-! ## Reconcilers -/

namespace Reconciliation

/-- An update that is sent is carried by a message of the station. -/
theorem carries_of_updateMessage_eq_ok {node : Node} {operation : UpdateOperation}
    {data : Except WireError Bytes} {frame : Bytes}
    (h : (updateMessage node operation data).2 = .ok frame) :
    ∃ bytes message, data = .ok bytes ∧ Message.decode frame = .ok message ∧
      message.Carries ⟨operation, bytes⟩ := by
  cases data with
  | error cause => simp [updateMessage, bind, Except.bind] at h
  | ok bytes =>
    cases hpayload : Update.encode ⟨operation, bytes⟩ with
    | error cause => simp [updateMessage, bind, Except.bind, hpayload] at h
    | ok payload =>
      simp only [updateMessage, bind, Except.bind, hpayload] at h
      obtain ⟨hlength, hrecord⟩ := Update.encode_eq_ok_iff.mp hpayload
      obtain ⟨hfits, rfl⟩ := Message.encode_eq_ok_iff.mp h
      have hflag : ((0 ||| Message.noCacheFlag) &&& Message.noCacheFlag != 0) = true := by decide
      refine ⟨bytes, _, rfl, Message.decode_record hfits, rfl, hflag, rfl, rfl, ?_⟩
      show Update.decode payload = _
      rw [hrecord]
      exact Update.decode_record hlength

theorem peers_updateMessage (node : Node) (operation : UpdateOperation)
    (data : Except WireError Bytes) : (updateMessage node operation data).1.peers = node.peers := by
  simp only [updateMessage]
  split <;> rfl

theorem peers_mergeAll (node : Node) (messages : List Message) :
    (mergeAll node messages).1.peers = node.peers := by
  induction messages generalizing node with
  | nil => rfl
  | cons message messages ih =>
    simp only [mergeAll, ih]
    rfl

end Reconciliation

namespace Message

/-- Frames that are sent back for a message: replies, at most so many, and none at all unless the
message is a query. -/
structure Provokes (message : Message) (count : Nat) (replies : List Bytes) : Prop where
  isReplyFrame : ∀ reply ∈ replies, IsReplyFrame reply
  length_le : replies.length ≤ count
  isQuery : replies ≠ [] → message.isQuery = true

theorem provokes_nil (message : Message) (count : Nat) : message.Provokes count [] :=
  ⟨nofun, Nat.zero_le _, fun h => absurd rfl h⟩

/-- Where the peers get nothing, nothing is sent back. -/
theorem exists_provokes_of_peers_eq (message : Message) (count : Nat) (sender : Option PeerId)
    {before after : Node} (h : after.peers = before.peers) :
    ∃ replies, message.Provokes count replies ∧
      before.Sends after fun id => if sender = some id then replies else [] :=
  ⟨[], message.provokes_nil count, by simpa using Node.sends_of_peers_eq h⟩

theorem Provokes.append {message : Message} {count count' : Nat} {replies replies' : List Bytes}
    (h : message.Provokes count replies) (h' : message.Provokes count' replies') :
    message.Provokes (count + count') (replies ++ replies') where
  isReplyFrame := List.forall_mem_append.mpr ⟨h.isReplyFrame, h'.isReplyFrame⟩
  length_le := by
    have hle := h.length_le
    have hle' := h'.length_le
    rw [List.length_append]
    omega
  isQuery hne := by
    by_cases hnil : replies = []
    · exact h'.isQuery (by simpa [hnil] using hne)
    · exact h.isQuery hnil

end Message

namespace Reconciliation

theorem sends_answer {stats stats' : ReconcileStats} {node node' : Node} {peer : PeerId}
    {data : Bytes} (h : answer stats node peer data = .ok (stats', node')) :
    ∃ frame, IsReplyFrame frame ∧
      node.Sends node' fun id => if some peer = some id then [frame] else [] := by
  simp only [answer] at h
  cases hquery : CacheQuery.decode data with
  | error cause => simp [hquery, bind, Except.bind] at h
  | ok query =>
    cases hbuilt : (updateMessage node .cacheResponse (answerTo query node.cached).encode).2 with
    | error cause => simp [hquery, hbuilt, bind, Except.bind] at h
    | ok frame =>
      simp only [hquery, hbuilt, bind, Except.bind, pure, Except.pure, Except.ok.injEq,
        Prod.mk.injEq] at h
      obtain ⟨bytes, message, -, hmessage, hcarries⟩ := carries_of_updateMessage_eq_ok hbuilt
      refine ⟨frame, ⟨message, hmessage, hcarries.isReply⟩, ?_⟩
      rw [← h.2]
      exact (Node.sends_of_peers_eq (peers_updateMessage ..)).trans (Node.sends_queue ..)

theorem peers_merge {stats stats' : ReconcileStats} {node node' : Node} {data : Bytes}
    (h : merge stats node data = .ok (stats', node')) : node'.peers = node.peers := by
  simp only [merge] at h
  cases hanswer : CacheAnswer.decode data with
  | error cause => simp [hanswer, bind, Except.bind] at h
  | ok answer =>
    simp only [hanswer, bind, Except.bind, pure, Except.pure, Except.ok.injEq, Prod.mk.injEq] at h
    rw [← h.2, peers_mergeAll]

/-- **A reconciler** sends one reply at most, and that for a query. -/
theorem sends_observe (stats : ReconcileStats) (node : Node) (delivery : Delivery) :
    ∃ replies, delivery.message.Provokes 1 replies ∧
      node.Sends (observe stats node delivery).2
        fun id => if delivery.sender = some id then replies else [] := by
  have hquiet : ∀ after : Node, after.peers = node.peers → ∃ replies,
      delivery.message.Provokes 1 replies ∧
        node.Sends after fun id => if delivery.sender = some id then replies else [] :=
    fun _ => delivery.message.exists_provokes_of_peers_eq 1 delivery.sender
  simp only [observe]
  split
  · next peer hkind hsender =>
    simp only [react]
    cases hupdate : Update.decode delivery.message.payload with
    | error cause => exact hquiet node rfl
    | ok update =>
      simp only [bind, Except.bind]
      cases hoperation : update.operation with
      | cacheRequest =>
        cases hanswer : answer stats node peer update.data with
        | error cause => exact hquiet node rfl
        | ok result =>
          obtain ⟨stats', node'⟩ := result
          obtain ⟨frame, hframe, hsends⟩ := sends_answer hanswer
          refine ⟨[frame], ⟨by simpa using hframe, Nat.le_refl 1, fun _ => ?_⟩, ?_⟩
          · simp [Message.isQuery, hkind, hupdate, hoperation]
          · rw [hsender]
            exact hsends
      | cacheResponse =>
        cases hmerge : merge stats node update.data with
        | error cause => exact hquiet node rfl
        | ok result =>
          obtain ⟨stats', node'⟩ := result
          exact hquiet node' (peers_merge hmerge)
  · exact hquiet node rfl

end Reconciliation

/-! ## Stations -/

namespace Station

theorem sends_runHandler (station : Station) (delivery : Delivery)
    (entry : CallbackId × MessageHandler) :
    ∃ replies, delivery.message.Provokes 1 replies ∧
      station.node.Sends (station.runHandler delivery entry).node
        fun id => if delivery.sender = some id then replies else [] := by
  have hquiet : ∃ replies, delivery.message.Provokes 1 replies ∧
      station.node.Sends station.node
        fun id => if delivery.sender = some id then replies else [] :=
    delivery.message.exists_provokes_of_peers_eq 1 delivery.sender rfl
  obtain ⟨id, handler⟩ := entry
  cases handler with
  | observer => exact hquiet
  | tally index => exact hquiet
  | reconciler index =>
    simp only [runHandler, reconcile]
    cases station.reconcilers[index]? with
    | none => exact hquiet
    | some stats => exact Reconciliation.sends_observe stats station.node delivery

theorem sends_foldl_runHandler (station : Station) (delivery : Delivery)
    (handlers : List (CallbackId × MessageHandler)) :
    ∃ replies, delivery.message.Provokes handlers.length replies ∧
      station.node.Sends (handlers.foldl (runHandler delivery) station).node
        fun id => if delivery.sender = some id then replies else [] := by
  induction handlers generalizing station with
  | nil => exact delivery.message.exists_provokes_of_peers_eq 0 delivery.sender rfl
  | cons entry handlers ih =>
    obtain ⟨first, hfirst, hsends⟩ := station.sends_runHandler delivery entry
    obtain ⟨others, hothers, hsends'⟩ := ih (station.runHandler delivery entry)
    refine ⟨first ++ others, ?_, hsends.trans_back hsends'⟩
    rw [List.length_cons, Nat.add_comm]
    exact hfirst.append hothers

/-- **A delivery** calls forth one reply from each handler at most, and none unless it is a query. -/
theorem sends_deliver (station : Station) (delivery : Delivery) :
    ∃ replies, delivery.message.Provokes station.messageHandlers.length replies ∧
      station.node.Sends (station.deliver delivery).node
        fun id => if delivery.sender = some id then replies else [] := by
  simp only [deliver]
  split
  · exact station.sends_foldl_runHandler delivery station.messageHandlers
  · exact delivery.message.exists_provokes_of_peers_eq _ delivery.sender rfl

/-- What a station does about a message: it may relay it to every peer, and it may send replies to
the peer that the message came from. -/
structure Reacts (before after : Station) (message : Message) (sender : Option PeerId)
    (relay : Option Bytes) (replies : List Bytes) : Prop where
  sends : before.node.Sends after.node fun id =>
    relay.toList ++ if sender = some id then replies else []
  relayed : ∀ wire ∈ relay, message.isNoCache = false ∧
    message.path.contains before.callsign = false ∧
    Engine.relayOf (message.hop before.callsign) = some wire
  isReplyFrame : ∀ reply ∈ replies, IsReplyFrame reply
  length_le : replies.length ≤ before.messageHandlers.length + 1
  isQuery : message.isNoCache = true → replies ≠ [] → message.isQuery = true

/-- What any one peer gets is the relay or a reply. -/
theorem Reacts.mem_frames {before after : Station} {message : Message} {sender : Option PeerId}
    {relay : Option Bytes} {replies : List Bytes}
    (h : before.Reacts after message sender relay replies) {id : PeerId} {data : Bytes}
    (hdata : data ∈ relay.toList ++ if sender = some id then replies else []) :
    relay = some data ∨ IsReplyFrame data := by
  rcases List.mem_append.mp hdata with hrelay | hreply
  · exact .inl (Option.mem_toList.mp hrelay)
  · split at hreply
    · exact .inr (h.isReplyFrame data hreply)
    · cases hreply

variable {station : Station} {message copy : Message} {engine : Engine} {relay reply : Option Bytes}

/-- A station whose peers get nothing does nothing about the message. -/
theorem reacts_of_peers_eq {after : Station} (h : after.node.peers = station.node.peers)
    (message : Message) (sender : Option PeerId) :
    station.Reacts after message sender none [] where
  sends := by simpa using Node.sends_of_peers_eq h
  relayed := nofun
  isReplyFrame := nofun
  length_le := Nat.zero_le _
  isQuery _ h := absurd rfl h

/-- A station that carries out events about a message, and then delivers it. -/
theorem exists_reacts_about (sender : Option PeerId) (hcopy : copy.isQuery = message.isQuery)
    (hrelay : ∀ wire ∈ relay, message.isNoCache = false ∧
      message.path.contains station.callsign = false ∧
      Engine.relayOf (message.hop station.callsign) = some wire)
    (hreply : ∀ wire ∈ reply, message.isNoCache = false ∧ IsReplyFrame wire) :
    ∃ replies, station.Reacts
      ({ station with
        node := { station.node with engine }.queueEvents sender
          (Event.about copy relay reply) }.deliver ⟨copy, sender⟩)
      message sender relay replies := by
  obtain ⟨replies, hprovoked, hsends⟩ := sends_deliver
    { station with
      node := { station.node with engine }.queueEvents sender (Event.about copy relay reply) }
    ⟨copy, sender⟩
  have hqueued : station.node.Sends
      ({ station.node with engine }.queueEvents sender (Event.about copy relay reply))
      fun id => relay.toList ++ if sender = some id then reply.toList else [] := by
    simp only [← Event.framesFor_about copy relay reply sender]
    rfl
  refine ⟨reply.toList ++ replies, ?_, hrelay, ?_, ?_, ?_⟩
  · refine (hqueued.trans hsends).congr fun id => ?_
    by_cases hid : sender = some id <;> simp [hid]
  · refine List.forall_mem_append.mpr ⟨fun wire hwire => ?_, hprovoked.isReplyFrame⟩
    exact (hreply wire (Option.mem_toList.mp hwire)).2
  · have hle := hprovoked.length_le
    have hone : reply.toList.length ≤ 1 := by cases reply <;> simp
    rw [List.length_append]
    simp only at hle
    omega
  · intro hno hne
    rw [← hcopy]
    refine hprovoked.isQuery fun hnil => hne ?_
    cases reply with
    | none => simpa using hnil
    | some wire =>
      -- A message that is not to be kept is not acknowledged.
      rw [(hreply wire rfl).1] at hno
      cases hno

/-- **A station reacts** to what its engine decided about a message with a relay, if the message is
to be kept, and with a number of replies. -/
theorem exists_reacts {cache : Cache} {events : List Event} (sender : Option PeerId)
    (hdecides : station.node.engine.Decides message reply cache events)
    (hreply : ∀ wire ∈ reply, IsReplyFrame wire) :
    ∃ relay replies, station.Reacts
      ((events.filterMap (·.delivery? sender)).foldl deliver { station with
        node := { station.node with engine }.queueEvents sender events })
      message sender relay replies := by
  cases hdecides with
  | drops =>
    refine ⟨none, [], reacts_of_peers_eq ?_ message sender⟩
    simp [Node.queueEvents, Peer.queueAll]
  | delivers hno =>
    rw [Event.delivery?_about]
    exact ⟨none, exists_reacts_about sender rfl (by simp) (by simp)⟩
  | accepts hnews =>
    rw [Event.delivery?_about]
    exact ⟨_, exists_reacts_about sender rfl (fun _ hwire => ⟨hnews.kept, hnews.no_loop, hwire⟩)
      fun wire hwire => ⟨hnews.kept, hreply wire hwire⟩⟩

/-- What is no message does not make a station send anything. -/
theorem peers_handle_of_malformed {raw : Bytes} {cause : WireError}
    (hraw : Message.decode raw = .error cause) (sender : Option PeerId) :
    (station.handle raw sender).node.peers = station.node.peers := by
  simp [handle, Node.handle, Engine.handle_of_malformed hraw]

/-- **A station that gets a frame** from a peer reacts to the message in it. -/
theorem exists_reacts_handle {raw : Bytes} (hraw : Message.decode raw = .ok message)
    (sender : Option PeerId) :
    ∃ relay replies, station.Reacts (station.handle raw sender) message sender relay replies := by
  obtain ⟨events, hevents, hdecides⟩ := Engine.decides_handle hraw
  rw [handle, Node.handle_eq, hevents]
  exact exists_reacts sender hdecides fun _ => Engine.isReplyFrame_of_replyTo_eq_some

/-- **A station that spreads a message** reacts to it, if it takes it at all. -/
theorem exists_reacts_spread (station : Station) (message : Message) :
    ∃ relay replies, station.Reacts (station.spread message).1 message none relay replies ∧
      (relay ≠ none → (station.spread message).2 = .ok ()) := by
  rcases station.node.engine.refuses_or_decides_spread message with
    ⟨cause, h⟩ | ⟨events, hevents, hdecides⟩
  · rw [spread, Node.spread_of_error (congrArg Prod.snd h)]
    refine ⟨none, [], reacts_of_peers_eq ?_ message none, fun hne => absurd rfl hne⟩
    rfl
  · rw [spread, Node.spread_eq hevents]
    obtain ⟨relay, replies, hreacts⟩ := exists_reacts none hdecides (by simp)
    exact ⟨relay, replies, hreacts, fun _ => rfl⟩

end Station

end RadioGossip
