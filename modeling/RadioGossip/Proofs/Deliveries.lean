import RadioGossip.Proofs.Decisions
import RadioGossip.Proofs.Outboxes
import RadioGossip.Station.Basic

/-!
# What becomes of decisions

A node carries out the decisions of its engine in two respects only: some of them put a frame into
the outbox of a peer, and some of them are messages for the station itself. Which frames a peer gets
depends on the peer alone and not on the others.

A station runs its handlers on what is delivered. Handlers that do not react to a message leave the
node alone; all that is left of them is what the observers wrote down.
-/

namespace RadioGossip

/-! ## Events -/

namespace Event

/-- The frames that a peer gets for an event. -/
def framesFor (sender : Option PeerId) (peer : PeerId) : Event → List Bytes
  | .deliver _ => []
  | .relay wire => [wire]
  | .reply wire => if sender = some peer then [wire] else []

/-- What an event has for the station itself. -/
def delivery? (sender : Option PeerId) : Event → Option Delivery
  | .deliver message => some ⟨message, sender⟩
  | _ => none

theorem delivery?_about (message : Message) (relay reply : Option Bytes)
    (sender : Option PeerId) :
    (about message relay reply).filterMap (·.delivery? sender) = [⟨message, sender⟩] := by
  cases relay <;> cases reply <;> simp [about, delivery?]

theorem framesFor_about (message : Message) (relay reply : Option Bytes)
    (sender : Option PeerId) (id : PeerId) :
    (about message relay reply).flatMap (·.framesFor sender id) =
      relay.toList ++ if sender = some id then reply.toList else [] := by
  cases relay <;> cases reply <;> simp [about, framesFor]

end Event

namespace Node

/-- Every peer gets the frames that the events have for it. -/
def queueEvents (node : Node) (sender : Option PeerId) (events : List Event) : Node :=
  { node with
    peers := node.peers.map fun peer => peer.queueAll (events.flatMap (·.framesFor sender peer.id)) }

/-- Events without frames change nothing. -/
theorem queueEvents_of_no_frames {node : Node} {sender : Option PeerId} {events : List Event}
    (h : ∀ id, events.flatMap (·.framesFor sender id) = []) :
    node.queueEvents sender events = node := by
  simp [queueEvents, h]

theorem carryOut_eq (node : Node) (sender : Option PeerId) (event : Event) :
    node.carryOut sender event =
      (node.queueEvents sender [event], (event.delivery? sender).toList) := by
  cases event with
  | deliver message => simp [carryOut, queueEvents, Event.framesFor, Event.delivery?, Peer.queueAll]
  | relay wire => simp [carryOut, queueEvents, queueAll, Event.framesFor, Event.delivery?,
      Peer.queueAll]
  | reply wire =>
    cases sender with
    | none => simp [carryOut, queueEvents, Event.framesFor, Event.delivery?, Peer.queueAll]
    | some id =>
      simp only [carryOut, queueEvents, queue, updatePeer, Event.framesFor, Event.delivery?,
        Option.toList_none, List.flatMap_singleton, Option.some.injEq]
      congr 2
      refine List.map_congr_left fun peer _ => ?_
      by_cases h : peer.id = id
      · simp [h, Peer.queueAll]
      · simp [h, Ne.symm h, Peer.queueAll]

/-- **Carrying out** events queues frames and collects deliveries, in order. -/
theorem carryOutAll_eq (node : Node) (sender : Option PeerId) (events : List Event) :
    node.carryOutAll sender events =
      (node.queueEvents sender events, events.filterMap (·.delivery? sender)) := by
  induction events generalizing node with
  | nil => simp [carryOutAll, queueEvents, Peer.queueAll]
  | cons event events ih =>
    simp only [carryOutAll, carryOut_eq, ih]
    refine Prod.ext ?_ ?_
    · simp [queueEvents, Peer.queueAll_eq, Outbox.pushAll]
    · cases h : event.delivery? sender with
      | none => simp [h]
      | some delivery => simp [h]

/-- The events of a frame that was handled. A frame that is no message has none. -/
def eventsOf (outcome : Except WireError (List Event)) : List Event := outcome.toOption.getD []

theorem handle_eq (node : Node) (raw : Bytes) (sender : Option PeerId) :
    node.handle raw sender =
      ({ node with engine := (node.engine.handle raw).1 }.queueEvents sender
          (eventsOf (node.engine.handle raw).2),
        (eventsOf (node.engine.handle raw).2).filterMap (·.delivery? sender)) := by
  simp only [handle]
  split
  · next engine cause h =>
    simp [h, eventsOf, Except.toOption, queueEvents, Peer.queueAll]
  · next engine events h =>
    rw [carryOutAll_eq]
    simp [h, eventsOf, Except.toOption]

/-- A message that the engine refuses leads to nothing. -/
theorem spread_of_error {node : Node} {message : Message} {cause : SpreadError}
    (h : (node.engine.spread message).2 = .error cause) :
    node.spread message =
      ({ node with engine := (node.engine.spread message).1 }, .error cause) := by
  simp only [spread]
  split
  · next engine cause' heq =>
    rw [heq] at h ⊢
    obtain rfl := Except.error.inj h
    rfl
  · next engine events heq =>
    rw [heq] at h
    cases h

theorem spread_eq {node : Node} {message : Message} {events : List Event}
    (h : (node.engine.spread message).2 = .ok events) :
    node.spread message =
      ({ node with engine := (node.engine.spread message).1 }.queueEvents none events,
        .ok (events.filterMap (·.delivery? none))) := by
  simp only [spread]
  split
  · next engine cause heq =>
    rw [heq] at h
    cases h
  · next engine events' heq =>
    rw [heq] at h
    obtain rfl := Except.ok.inj h
    rw [carryOutAll_eq, heq]

end Node

/-! ## Handlers -/

namespace MessageHandler

/-- Whether the handler may change the node. -/
def isReconciler : MessageHandler → Bool
  | .reconciler _ => true
  | _ => false

end MessageHandler

namespace Station

section Kept

variable {α : Type} (view : Station → α)

/-- What every handler leaves as it is, a delivery leaves as it is. -/
theorem deliver_kept {delivery : Delivery}
    (h : ∀ station entry, view (runHandler delivery station entry) = view station)
    (station : Station) : view (station.deliver delivery) = view station := by
  rw [deliver]
  split
  · exact List.foldlRecOn (motive := fun other => view other = view station) _ _ rfl
      fun other hother entry _ => (h other entry).trans hother
  · rfl

/-- What every handler leaves as it is on every delivery, all the deliveries leave as it is. -/
theorem foldl_deliver_kept {deliveries : List Delivery}
    (h : ∀ delivery ∈ deliveries, ∀ station entry,
      view (runHandler delivery station entry) = view station)
    (station : Station) : view (deliveries.foldl deliver station) = view station :=
  List.foldlRecOn (motive := fun other => view other = view station) _ _ rfl
    fun other hother delivery hdelivery =>
      (deliver_kept view (h delivery hdelivery) other).trans hother

/-- What every handler of new connections leaves as it is, a new connection leaves as it is. -/
theorem peerConnected_kept {peer : PeerId}
    (h : ∀ station entry, view (runConnectHandler peer station entry) = view station)
    (station : Station) : view (station.peerConnected peer) = view station := by
  rw [peerConnected]
  split
  · exact List.foldlRecOn (motive := fun other => view other = view station) _ _ rfl
      fun other hother entry _ => (h other entry).trans hother
  · rfl

end Kept

/-- The observers among some handlers. -/
def observersIn (handlers : List (CallbackId × MessageHandler)) : List CallbackId :=
  handlers.filterMap fun
    | (id, .observer) => some id
    | _ => none

/-- The observers that hear deliveries. Outside of a runtime nobody does. -/
def listeners (station : Station) : List CallbackId :=
  if station.hasRuntime then observersIn station.messageHandlers else []

/-- The handlers do not react to the message: it is no update, or none of them reconciles. -/
def Ignores (handlers : List (CallbackId × MessageHandler)) (message : Message) : Prop :=
  message.kind = .update → ∀ entry ∈ handlers, entry.2.isReconciler = false

/-- What a station is after handlers that did not react. -/
structure Heard (before after : Station) (noted : List LogEntry) : Prop where
  node : after.node = before.node
  messageHandlers : after.messageHandlers = before.messageHandlers
  hasRuntime : after.hasRuntime = before.hasRuntime
  log : after.log = before.log ++ noted

theorem Heard.refl (station : Station) : Heard station station [] :=
  ⟨rfl, rfl, rfl, (List.append_nil _).symm⟩

theorem Heard.trans {first second third : Station} {noted noted' : List LogEntry}
    (h : Heard first second noted) (h' : Heard second third noted') :
    Heard first third (noted ++ noted') :=
  ⟨h'.node.trans h.node, h'.messageHandlers.trans h.messageHandlers,
    h'.hasRuntime.trans h.hasRuntime, by rw [h'.log, h.log, List.append_assoc]⟩

theorem Heard.listeners_eq {before after : Station} {noted : List LogEntry}
    (h : Heard before after noted) : after.listeners = before.listeners := by
  rw [listeners, listeners, h.messageHandlers, h.hasRuntime]

theorem heard_runHandler {station : Station} {delivery : Delivery}
    {entry : CallbackId × MessageHandler} (h : Ignores [entry] delivery.message) :
    Heard station (station.runHandler delivery entry)
      ((observersIn [entry]).map fun id => ⟨id, delivery⟩) := by
  obtain ⟨id, handler⟩ := entry
  cases handler with
  | observer => exact ⟨rfl, rfl, rfl, rfl⟩
  | tally index => exact ⟨rfl, rfl, rfl, (List.append_nil _).symm⟩
  | reconciler index =>
    -- A reconciler that is registered but ignores the message takes it for no update.
    have hkind : delivery.message.kind ≠ .update := fun hkind => by
      have := h hkind _ (List.mem_singleton_self _)
      simp [MessageHandler.isReconciler] at this
    cases hstats : station.reconcilers[index]? with
    | none =>
      simp only [runHandler, reconcile, hstats]
      exact Heard.refl station
    | some stats =>
      have hobserve : Reconciliation.observe stats station.node delivery = (stats, station.node) := by
        unfold Reconciliation.observe
        split
        · next hupdate _ => exact absurd hupdate hkind
        · rfl
      simp only [runHandler, reconcile, hstats, hobserve]
      exact ⟨rfl, rfl, rfl, (List.append_nil _).symm⟩

theorem heard_foldl_runHandler {delivery : Delivery}
    {handlers : List (CallbackId × MessageHandler)} (station : Station)
    (h : Ignores handlers delivery.message) :
    Heard station (handlers.foldl (runHandler delivery) station)
      ((observersIn handlers).map fun id => ⟨id, delivery⟩) := by
  induction handlers generalizing station with
  | nil => exact Heard.refl station
  | cons entry handlers ih =>
    have hentry : Ignores [entry] delivery.message := fun hkind other hother =>
      h hkind other (by simp_all)
    have hothers : Ignores handlers delivery.message := fun hkind other hother =>
      h hkind other (List.mem_cons_of_mem _ hother)
    have hsplit : observersIn (entry :: handlers) = observersIn [entry] ++ observersIn handlers := by
      rw [← List.singleton_append, observersIn, List.filterMap_append]
      rfl
    rw [hsplit, List.map_append]
    exact (heard_runHandler hentry).trans (ih _ hothers)

/-- **A delivery that nobody reacts to** is noted by everyone who listens, and that is all. -/
theorem heard_deliver {station : Station} {delivery : Delivery}
    (h : Ignores station.messageHandlers delivery.message) :
    Heard station (station.deliver delivery) (station.listeners.map fun id => ⟨id, delivery⟩) := by
  rw [deliver, listeners]
  split
  · exact heard_foldl_runHandler station h
  · exact Heard.refl station

theorem heard_foldl_deliver {deliveries : List Delivery} (station : Station)
    (h : ∀ delivery ∈ deliveries, Ignores station.messageHandlers delivery.message) :
    Heard station (deliveries.foldl deliver station)
      (deliveries.flatMap fun delivery => station.listeners.map fun id => ⟨id, delivery⟩) := by
  induction deliveries generalizing station with
  | nil => exact Heard.refl station
  | cons delivery deliveries ih =>
    have hfirst := heard_deliver (h delivery (List.mem_cons_self ..))
    have hrest := ih (station.deliver delivery) fun other hother => by
      rw [hfirst.messageHandlers]
      exact h other (List.mem_cons_of_mem _ hother)
    rw [hfirst.listeners_eq] at hrest
    exact hfirst.trans hrest

/-! ## Stations -/

/-- A station after events that its handlers do not react to. -/
theorem heard_handle {station : Station} {raw : Bytes} {sender : Option PeerId}
    {events : List Event} (hevents : Node.eventsOf (station.node.engine.handle raw).2 = events)
    (h : ∀ delivery ∈ events.filterMap (·.delivery? sender),
      Ignores station.messageHandlers delivery.message) :
    Heard { station with
        node := { station.node with engine := (station.node.engine.handle raw).1 }.queueEvents
          sender events }
      (station.handle raw sender)
      ((events.filterMap (·.delivery? sender)).flatMap fun delivery =>
        station.listeners.map fun id => ⟨id, delivery⟩) := by
  subst hevents
  rw [handle, Node.handle_eq]
  exact heard_foldl_deliver { station with node := _ } h

theorem heard_spread {station : Station} {message : Message} {events : List Event}
    (hevents : (station.node.engine.spread message).2 = .ok events)
    (h : ∀ delivery ∈ events.filterMap (·.delivery? none),
      Ignores station.messageHandlers delivery.message) :
    (station.spread message).2 = .ok () ∧
      Heard { station with
          node := { station.node with engine := (station.node.engine.spread message).1 }.queueEvents
            none events }
        (station.spread message).1
        ((events.filterMap (·.delivery? none)).flatMap fun delivery =>
          station.listeners.map fun id => ⟨id, delivery⟩) := by
  rw [spread, Node.spread_eq hevents]
  exact ⟨rfl, heard_foldl_deliver { station with node := _ } h⟩

end Station

end RadioGossip
