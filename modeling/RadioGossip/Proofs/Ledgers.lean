import Mathlib.Data.List.DropRight
import RadioGossip.Proofs.Acknowledgements
import RadioGossip.Proofs.Reactions

/-!
# What the peers of a node are due

What waits for the peers of a node comes of all that the node was asked to do. A **ledger** tells it
without an engine, a cache or outboxes. It remembers the keys of the messages that the station took
in last, as many as the station has room for, and by these alone it says which message a request has
it accept, and what each peer is **due** for that:

* the message after its hop, if it has hops left to go and can be written — every peer, also the one
  that the message came from;
* behind it an acknowledgement, if the message asks for one — only the peer that it came from;
* a frame that was meant for the peer.

For anything else nobody is due anything. A ledger **tracks** an engine as long as both remember the
same, and every request keeps it so. An outbox then holds the last of what was due, as many frames
as it may.
-/

namespace RadioGossip

/-! ## The last ones -/

/-- To keep the last ones again whenever something is added comes to keeping the last ones of all. -/
theorem rtake_rtake_append {α : Type} (older newer : List α) (count : Nat) :
    (older.rtake count ++ newer).rtake count = (older ++ newer).rtake count := by
  have hdrop : older.rtake count ++ newer = (older ++ newer).drop (older.length - count) :=
    (List.drop_append_of_le_length (Nat.sub_le _ _)).symm
  rw [hdrop]
  simp only [List.rtake, List.drop_drop, List.length_drop, List.length_append]
  congr 1
  omega

theorem rtake_of_length_le {α : Type} {items : List α} {count : Nat} (h : items.length ≤ count) :
    items.rtake count = items := by
  rw [List.rtake, Nat.sub_eq_zero_of_le h, List.drop_zero]

theorem length_rtake_le {α : Type} (items : List α) (count : Nat) :
    (items.rtake count).length ≤ count := by
  rw [List.rtake, List.length_drop]
  omega

namespace Outbox

theorem contents_push_eq_rtake {outbox : Outbox} (hcapacity : 1 ≤ outbox.capacity) (data : Bytes) :
    (outbox.push data).contents = (outbox.contents ++ [data]).rtake outbox.capacity := by
  have hle : outbox.size + 1 - outbox.capacity ≤ outbox.contents.length := by
    rw [contents, List.length_map, ← size]
    omega
  have hlength : (outbox.contents ++ [data]).length = outbox.size + 1 := by
    simp [contents, size]
  rw [List.rtake, hlength, List.drop_append_of_le_length hle, push, contents, contents,
    List.map_append, List.map_drop, List.map_singleton]

/-- Of all the frames that came an outbox holds the last ones. -/
theorem contents_pushAll_eq_rtake {outbox : Outbox} (hcapacity : 1 ≤ outbox.capacity)
    {frames : List Bytes} (hroom : outbox.contents.length ≤ outbox.capacity) :
    (outbox.pushAll frames).contents = (outbox.contents ++ frames).rtake outbox.capacity := by
  induction frames generalizing outbox with
  | nil => rw [List.append_nil, rtake_of_length_le hroom, pushAll, List.foldl_nil]
  | cons data frames ih =>
    have hpush := contents_push_eq_rtake hcapacity data
    have hroom' : (outbox.push data).contents.length ≤ outbox.capacity := by
      rw [hpush]
      exact length_rtake_le _ _
    show ((outbox.push data).pushAll frames).contents = _
    rw [@ih (outbox.push data) hcapacity hroom', capacity_push, hpush, rtake_rtake_append,
      List.append_assoc, List.singleton_append]

end Outbox

namespace Cache

/-- The keys of a cache are the last ones of those that came. -/
theorem keys_insert_eq_rtake {cache : Cache} {message : Message}
    (hroom : cache.size ≤ cache.capacity) (hfresh : cache.contains message.key = false) :
    (cache.insert message).1.keys = (cache.keys ++ [message.key]).rtake cache.capacity := by
  have hlength : cache.keys.length = cache.size := List.length_map _
  by_cases hcapacity : cache.capacity = 0
  · have hnil : (cache.keys ++ [message.key]).rtake cache.capacity = [] := by
      rw [hcapacity, List.rtake_zero]
    have hempty : cache.keys = [] := List.eq_nil_of_length_eq_zero (by omega)
    rw [insert_of_capacity_eq_zero hcapacity, hnil, hempty]
  · have hle : cache.size + 1 - cache.capacity ≤ cache.keys.length := by omega
    rw [keys_insert_of_fresh (Nat.one_le_iff_ne_zero.mpr hcapacity) hfresh, List.rtake,
      List.length_append, hlength, List.length_singleton, List.drop_append_of_le_length hle]

end Cache

/-! ## Requests to a node -/

/-- What a node is asked to do. -/
inductive NodeRequest where
  /-- To flood a message that starts here. -/
  | spread (message : Message)
  /-- To process a frame, as it came from a peer. -/
  | handle (raw : Bytes) (sender : Option PeerId)
  /-- To take a message into the cache. -/
  | add (message : Message)
  /-- To send a frame to one peer. -/
  | queue (id : PeerId) (data : Bytes)
  deriving DecidableEq, Repr

namespace Node

/-- The node after a request. -/
def serve (node : Node) : NodeRequest → Node
  | .spread message => (node.spread message).1
  | .handle raw sender => (node.handle raw sender).1
  | .add message => (node.addToCache message).1
  | .queue id data => node.queue id data

/-- The node after some requests, the first of them first. -/
def serveAll (node : Node) (requests : List NodeRequest) : Node := requests.foldl serve node

end Node

/-! ## Ledgers -/

/-- What has to be known of a station to say what its peers are due. -/
structure Ledger where
  self : Contact
  readOnly : Bool
  capacity : Nat
  /-- The keys of the messages that were taken in last, the oldest first. -/
  recent : List Key := []
  deriving DecidableEq, Repr

namespace Ledger

/-- The callsign of the station. -/
def callsign (ledger : Ledger) : String := ledger.self.callsignText

/-- The message is to be kept, is none of the last ones, and has not been here. -/
def IsNews (ledger : Ledger) (message : Message) : Prop :=
  message.isNoCache = false ∧ message.key ∉ ledger.recent ∧
    message.path.contains ledger.callsign = false

instance (ledger : Ledger) (message : Message) : Decidable (ledger.IsNews message) :=
  inferInstanceAs (Decidable (_ ∧ _ ∧ _))

/-- The message may start here: the station does not only listen, and what has to be relayed can be
written. -/
def MaySpread (ledger : Ledger) (message : Message) : Prop :=
  ledger.readOnly = false ∧
    ((message.hop ledger.callsign).ttl ≠ 0 → (message.hop ledger.callsign).Fits)

instance (ledger : Ledger) (message : Message) : Decidable (ledger.MaySpread message) :=
  inferInstanceAs (Decidable (_ ∧ _))

/-- The message that a request has the station accept. -/
def accepted? (ledger : Ledger) : NodeRequest → Option Message
  | .spread message =>
    if ledger.IsNews message ∧ ledger.MaySpread message then some message else none
  | .handle raw _ => (Message.decode raw).toOption.filter fun message => ledger.IsNews message
  | .add _ => none
  | .queue _ _ => none

/-- The key that the station remembers from a request. -/
def remembered? (ledger : Ledger) : NodeRequest → Option Key
  | .spread message => (ledger.accepted? (.spread message)).map Message.key
  | .handle raw sender => (ledger.accepted? (.handle raw sender)).map Message.key
  | .add message =>
    if message.isNoCache = false ∧ message.key ∉ ledger.recent then some message.key else none
  | .queue _ _ => none

/-- The ledger after a request. -/
def next (ledger : Ledger) (request : NodeRequest) : Ledger :=
  { ledger with
    recent := (ledger.recent ++ (ledger.remembered? request).toList).rtake ledger.capacity }

/-- What every peer is due for a message: its record after the hop. -/
def relay (ledger : Ledger) (message : Message) : List Bytes :=
  let hopped := message.hop ledger.callsign
  if hopped.ttl ≠ 0 ∧ hopped.Fits then [hopped.record] else []

/-- The message by which the station confirms another. -/
def receipt (ledger : Ledger) (message : Message) : Message :=
  { Message.make ledger.self 0 .ack (Ack.ofKey message.key).encode with
    flags := Message.noCacheFlag
    path := ⟨ledger.callsign⟩ }

/-- What a peer is due for a message that it sent. -/
def answer (ledger : Ledger) (message : Message) : List Bytes :=
  if message.isAckRequested then [(ledger.receipt message).record] else []

/-- What a peer is due for a request. -/
def due (ledger : Ledger) (peer : PeerId) : NodeRequest → List Bytes
  | .spread message => (ledger.accepted? (.spread message)).toList.flatMap ledger.relay
  | .handle raw sender => (ledger.accepted? (.handle raw sender)).toList.flatMap fun message =>
    ledger.relay message ++ if sender = some peer then ledger.answer message else []
  | .add _ => []
  | .queue id data => if id = peer then [data] else []

/-- What a peer is due for a row of requests, in order. -/
def dueAll (ledger : Ledger) (peer : PeerId) : List NodeRequest → List Bytes
  | [] => []
  | request :: requests => ledger.due peer request ++ (ledger.next request).dueAll peer requests

/-! ## Keeping track -/

/-- The ledger and the engine remember the same. -/
structure Tracks (ledger : Ledger) (engine : Engine) : Prop where
  self : engine.self = ledger.self
  readOnly : engine.readOnly = ledger.readOnly
  capacity : engine.cache.capacity = ledger.capacity
  keys : engine.cache.keys = ledger.recent
  room : engine.cache.size ≤ engine.cache.capacity

variable {ledger : Ledger} {engine after : Engine} {message : Message} {request : NodeRequest}

theorem Tracks.callsign (h : ledger.Tracks engine) : engine.callsign = ledger.callsign :=
  congrArg Contact.callsignText h.self

theorem Tracks.contains_eq_false_iff (h : ledger.Tracks engine) {key : Key} :
    engine.cache.contains key = false ↔ key ∉ ledger.recent := by
  rw [Cache.contains_eq_false_iff, h.keys]

/-- They agree on what is news. -/
theorem Tracks.isNews_iff (h : ledger.Tracks engine) :
    engine.IsNews message ↔ ledger.IsNews message := by
  rw [IsNews, ← h.callsign, ← h.contains_eq_false_iff]
  exact ⟨fun hnews => ⟨hnews.kept, hnews.fresh, hnews.no_loop⟩,
    fun ⟨hkept, hfresh, hloop⟩ => ⟨hkept, hfresh, hloop⟩⟩

/-- A request from which nothing is remembered. -/
theorem Tracks.next_of_none (h : ledger.Tracks engine) (hnone : ledger.remembered? request = none)
    (houtline : after.outline = engine.outline) (hcache : after.cache = engine.cache) :
    (ledger.next request).Tracks after where
  self := (congrArg Engine.Outline.self houtline).trans h.self
  readOnly := (congrArg Engine.Outline.readOnly houtline).trans h.readOnly
  capacity := (congrArg Engine.Outline.capacity houtline).trans h.capacity
  keys := by
    have hlength : ledger.recent.length ≤ ledger.capacity := by
      rw [← h.keys, ← h.capacity, Cache.keys, List.length_map]
      exact h.room
    rw [hcache, h.keys, next, hnone, Option.toList_none, List.append_nil,
      rtake_of_length_le hlength]
  room := by
    rw [hcache]
    exact h.room

/-- A request from which a key is remembered that was not. -/
theorem Tracks.next_of_some (h : ledger.Tracks engine) {copy : Message}
    (hsome : ledger.remembered? request = some copy.key) (hfresh : copy.key ∉ ledger.recent)
    (houtline : after.outline = engine.outline)
    (hcache : after.cache = (engine.cache.insert copy).1) : (ledger.next request).Tracks after := by
  have hkeys : after.cache.keys = (ledger.next request).recent := by
    rw [hcache, Cache.keys_insert_eq_rtake h.room (h.contains_eq_false_iff.mpr hfresh), h.keys,
      h.capacity, next, hsome, Option.toList_some]
  have hcapacity : after.cache.capacity = ledger.capacity :=
    (congrArg Engine.Outline.capacity houtline).trans h.capacity
  refine ⟨(congrArg Engine.Outline.self houtline).trans h.self,
    (congrArg Engine.Outline.readOnly houtline).trans h.readOnly, hcapacity, hkeys, ?_⟩
  have hsize : after.cache.keys.length = after.cache.size := List.length_map _
  rw [← hsize, hkeys, hcapacity]
  exact length_rtake_le _ _

/-! ## What is sent -/

theorem toList_relayOf_hop (h : ledger.Tracks engine) (message : Message) :
    (Engine.relayOf (message.hop engine.callsign)).toList = ledger.relay message := by
  rw [h.callsign, relay]
  by_cases hsent : (message.hop ledger.callsign).ttl ≠ 0 ∧ (message.hop ledger.callsign).Fits
  · rw [if_pos hsent, Engine.relayOf_eq_some_iff.mpr ⟨hsent.1, Message.encode_of_fits hsent.2⟩,
      Option.toList_some]
  · rw [if_neg hsent]
    cases hrelay : Engine.relayOf (message.hop ledger.callsign) with
    | none => rfl
    | some wire =>
      obtain ⟨httl, hwire⟩ := Engine.relayOf_eq_some_iff.mp hrelay
      exact absurd ⟨httl, (Message.encode_eq_ok_iff.mp hwire).1⟩ hsent

theorem toList_replyTo (h : ledger.Tracks engine) (message : Message) :
    (engine.replyTo message).toList = ledger.answer message := by
  have hreceipt : engine.acknowledgement message = ledger.receipt message := by
    rw [receipt, ← h.callsign, ← h.self]
    rfl
  rw [answer, ← hreceipt]
  cases hrequested : message.isAckRequested with
  | true =>
    rw [Engine.replyTo_of_requested hrequested]
    rfl
  | false =>
    rw [Engine.replyTo_of_not_requested hrequested]
    rfl

/-! ## One request -/

theorem sends_queueEvents (node : Node) (engine : Engine) (sender : Option PeerId)
    (events : List Event) :
    node.Sends ({ node with engine }.queueEvents sender events)
      fun peer => events.flatMap (·.framesFor sender peer) := rfl

/-- The ledger is right about a request: it keeps track of the node, and every peer gets what it is
due. -/
structure Settles (ledger : Ledger) (node : Node) (request : NodeRequest) : Prop where
  tracks : (ledger.next request).Tracks (node.serve request).engine
  sends : node.Sends (node.serve request) fun peer => ledger.due peer request

variable {node : Node} {sender : Option PeerId} {events : List Event}

/-- A request of which nothing comes but deliveries. -/
theorem settles_of_none (h : ledger.Tracks node.engine) (hnone : ledger.remembered? request = none)
    (hdue : ∀ peer, ledger.due peer request = [])
    (hserve : node.serve request = { node with engine := after }.queueEvents sender events)
    (hcache : after.cache = node.engine.cache) (houtline : after.outline = node.engine.outline)
    (hframes : ∀ peer, events.flatMap (·.framesFor sender peer) = []) :
    ledger.Settles node request where
  tracks := by
    rw [hserve]
    exact h.next_of_none hnone houtline hcache
  sends := by
    rw [hserve, Node.queueEvents_of_no_frames hframes]
    exact (Node.sends_of_peers_eq rfl).congr fun peer => (hdue peer).symm

/-- A request by which a message is accepted. -/
theorem settles_of_accepted {reply : Option Bytes} (h : ledger.Tracks node.engine)
    (hnews : ledger.IsNews message) (hsome : ledger.remembered? request = some message.key)
    (hserve : node.serve request = { node with engine := after }.queueEvents sender
      (Event.about (message.hop node.engine.callsign)
        (Engine.relayOf (message.hop node.engine.callsign)) reply))
    (hdue : ∀ peer, ledger.due peer request =
      ledger.relay message ++ if sender = some peer then reply.toList else [])
    (hcache : after.cache = (node.engine.cache.insert (message.hop node.engine.callsign)).1)
    (houtline : after.outline = node.engine.outline) : ledger.Settles node request where
  tracks := by
    have hkey : ledger.remembered? request = some (message.hop node.engine.callsign).key := hsome
    rw [hserve]
    exact h.next_of_some hkey hnews.2.1 houtline hcache
  sends := by
    rw [hserve]
    refine (sends_queueEvents node after sender _).congr fun peer => ?_
    rw [Event.framesFor_about, toList_relayOf_hop h, hdue]

/-- What is decided about a message that is no news. -/
theorem cache_and_frames_of_not_news {reply : Option Bytes} {cache : Cache}
    (h : ledger.Tracks engine) (hnot : ¬ ledger.IsNews message)
    (hdecides : engine.Decides message reply cache events) :
    cache = engine.cache ∧ ∀ peer, events.flatMap (·.framesFor sender peer) = [] := by
  cases hdecides with
  | drops => exact ⟨rfl, fun _ => rfl⟩
  | delivers => exact ⟨rfl, fun peer => by simp [Event.framesFor_about]⟩
  | accepts hnews => exact absurd (h.isNews_iff.mp hnews) hnot

theorem due_handle_of_none {raw : Bytes} (hnone : ledger.accepted? (.handle raw sender) = none)
    (peer : PeerId) : ledger.due peer (.handle raw sender) = [] := by
  rw [due, hnone]
  rfl

theorem settles_handle (h : ledger.Tracks node.engine) (raw : Bytes) (sender : Option PeerId) :
    ledger.Settles node (.handle raw sender) := by
  have hserve : node.serve (.handle raw sender) =
      { node with engine := (node.engine.handle raw).1 }.queueEvents sender
        (Node.eventsOf (node.engine.handle raw).2) := by
    rw [Node.serve, Node.handle_eq]
  have houtline := node.engine.outline_handle raw
  cases hraw : Message.decode raw with
  | error cause =>
    have hnone : ledger.accepted? (.handle raw sender) = none := by
      rw [accepted?, hraw]
      rfl
    have hhandle := node.engine.handle_of_malformed hraw
    refine settles_of_none h (congrArg (Option.map Message.key) hnone) (due_handle_of_none hnone)
      hserve ?_ houtline ?_
    · rw [hhandle]
    · rw [hhandle]
      exact fun _ => rfl
  | ok message =>
  by_cases hnews : ledger.IsNews message
  · have hsome : ledger.accepted? (.handle raw sender) = some message := by
      simp [accepted?, hraw, Except.toOption, hnews]
    obtain ⟨hkept, hfresh, hloop⟩ := h.isNews_iff.mpr hnews
    obtain ⟨hcache, hevents⟩ := Engine.handle_of_fresh hraw hloop hkept hfresh
    rw [hevents] at hserve
    refine settles_of_accepted h hnews (congrArg (Option.map Message.key) hsome) hserve
      (fun peer => ?_) hcache houtline
    rw [due, hsome, toList_replyTo h]
    simp
  · have hnone : ledger.accepted? (.handle raw sender) = none := by
      simp [accepted?, hraw, Except.toOption, hnews]
    obtain ⟨events, hevents, hdecides⟩ := node.engine.decides_handle hraw
    obtain ⟨hcache, hframes⟩ := cache_and_frames_of_not_news h hnews hdecides
    rw [hevents] at hserve
    exact settles_of_none h (congrArg (Option.map Message.key) hnone) (due_handle_of_none hnone)
      hserve hcache houtline hframes

/-- News that may not start here is refused. -/
theorem exists_refusal (h : ledger.Tracks engine) (hnews : ledger.IsNews message)
    (hmay : ¬ ledger.MaySpread message) :
    ∃ cause, engine.spread message = (engine, .error cause) := by
  obtain ⟨hkept, hfresh, hloop⟩ := h.isNews_iff.mpr hnews
  cases hwrite : engine.readOnly with
  | true => exact ⟨_, Engine.spread_of_readOnly hwrite message⟩
  | false =>
    rw [MaySpread, ← h.readOnly, ← h.callsign, Classical.not_and_iff_not_or_not] at hmay
    obtain ⟨httl, hfits⟩ := Classical.not_imp.mp (hmay.resolve_left (not_not_intro hwrite))
    obtain ⟨field, length, max, hwire⟩ := Message.encode_eq_tooLong_iff.mpr hfits
    exact ⟨_, Engine.spread_of_unwritable hwrite hkept hfresh hloop httl hwire⟩

/-- News that may start here is accepted. -/
theorem cache_and_events_of_maySpread (h : ledger.Tracks engine) (hnews : ledger.IsNews message)
    (hmay : ledger.MaySpread message) :
    (engine.spread message).1.cache = (engine.cache.insert (message.hop engine.callsign)).1 ∧
      (engine.spread message).2 = .ok (Event.about (message.hop engine.callsign)
        (Engine.relayOf (message.hop engine.callsign)) none) := by
  obtain ⟨hkept, hfresh, hloop⟩ := h.isNews_iff.mpr hnews
  obtain ⟨hwrite, hfits⟩ := hmay
  rw [← h.readOnly] at hwrite
  rw [← h.callsign] at hfits
  by_cases httl : (message.hop engine.callsign).ttl = 0
  · have hrelay : Engine.relayOf (message.hop engine.callsign) = none := if_pos httl
    rw [Engine.spread_of_spent hwrite hkept hfresh hloop httl, hrelay, Engine.cache_insert]
    exact ⟨rfl, rfl⟩
  · exact Engine.spread_of_fits hwrite hkept hfresh hloop (hfits httl)

theorem due_spread_of_none (hnone : ledger.accepted? (.spread message) = none) (peer : PeerId) :
    ledger.due peer (.spread message) = [] := by
  rw [due, hnone]
  rfl

/-- A message that may not start here changes nothing. -/
theorem settles_of_refused (h : ledger.Tracks node.engine)
    (hnone : ledger.accepted? (.spread message) = none) {cause : SpreadError}
    (hrefused : node.engine.spread message = (node.engine, .error cause)) :
    ledger.Settles node (.spread message) := by
  have houtline := node.engine.outline_spread message
  have hserve : node.serve (.spread message) = _ :=
    congrArg Prod.fst (Node.spread_of_error (congrArg Prod.snd hrefused))
  have hnothing : ({ node with engine := (node.engine.spread message).1 } : Node).queueEvents
      none [] = _ := Node.queueEvents_of_no_frames fun _ => rfl
  exact settles_of_none h (congrArg (Option.map Message.key) hnone) (due_spread_of_none hnone)
    (hserve.trans hnothing.symm) (by rw [hrefused]) houtline fun _ => rfl

theorem settles_spread (h : ledger.Tracks node.engine) (message : Message) :
    ledger.Settles node (.spread message) := by
  have houtline := node.engine.outline_spread message
  by_cases haccepted : ledger.IsNews message ∧ ledger.MaySpread message
  · have hsome : ledger.accepted? (.spread message) = some message := if_pos haccepted
    obtain ⟨hnews, hmay⟩ := haccepted
    obtain ⟨hcache, hevents⟩ := cache_and_events_of_maySpread h hnews hmay
    have hserve : node.serve (.spread message) = _ := congrArg Prod.fst (Node.spread_eq hevents)
    refine settles_of_accepted h hnews (congrArg (Option.map Message.key) hsome) hserve
      (fun peer => ?_) hcache houtline
    rw [due, hsome]
    simp
  have hnone : ledger.accepted? (.spread message) = none := if_neg haccepted
  by_cases hnews : ledger.IsNews message
  · obtain ⟨cause, hrefused⟩ := exists_refusal h hnews fun hmay => haccepted ⟨hnews, hmay⟩
    exact settles_of_refused h hnone hrefused
  rcases node.engine.refuses_or_decides_spread message with
    ⟨cause, hrefused⟩ | ⟨events, hevents, hdecides⟩
  · exact settles_of_refused h hnone hrefused
  · obtain ⟨hcache, hframes⟩ := cache_and_frames_of_not_news h hnews hdecides
    have hserve : node.serve (.spread message) = _ := congrArg Prod.fst (Node.spread_eq hevents)
    exact settles_of_none h (congrArg (Option.map Message.key) hnone) (due_spread_of_none hnone)
      hserve hcache houtline hframes

theorem settles_add (h : ledger.Tracks node.engine) (message : Message) :
    ledger.Settles node (.add message) where
  tracks := by
    have houtline := node.engine.outline_addToCache message
    show (ledger.next (.add message)).Tracks (node.engine.addToCache message).1
    cases hno : message.isNoCache with
    | true =>
      have hnone : ledger.remembered? (.add message) = none := by simp [remembered?, hno]
      rw [Engine.addToCache_of_noCache hno]
      exact h.next_of_none hnone rfl rfl
    | false =>
    have hadd := node.engine.addToCache_of_kept hno
    rw [← Message.heldAt] at hadd
    have hcache : (node.engine.addToCache message).1.cache =
        (node.engine.cache.insert (message.heldAt node.engine.callsign)).1 := by
      rw [hadd, Engine.cache_insert]
    have hkey := message.key_heldAt node.engine.callsign
    by_cases hrecent : message.key ∈ ledger.recent
    · have hcontains : node.engine.cache.contains
          (message.heldAt node.engine.callsign).key = true := by
        rw [Cache.contains_iff, h.keys, hkey]
        exact hrecent
      have hnone : ledger.remembered? (.add message) = none := by simp [remembered?, hrecent]
      rw [Cache.insert_of_contains hcontains] at hcache
      exact h.next_of_none hnone houtline hcache
    · have hsome : ledger.remembered? (.add message) =
          some (message.heldAt node.engine.callsign).key := by
        rw [hkey]
        exact if_pos ⟨hno, hrecent⟩
      exact h.next_of_some hsome (hkey ▸ hrecent) houtline hcache
  sends := Node.sends_of_peers_eq rfl

theorem settles_queue (h : ledger.Tracks node.engine) (id : PeerId) (data : Bytes) :
    ledger.Settles node (.queue id data) where
  tracks := h.next_of_none rfl rfl rfl
  sends := by
    refine (Node.sends_queue node id data).congr fun peer => ?_
    simp only [due, Option.some.injEq]

/-- **Every request is settled by the ledger.** -/
theorem Tracks.settles (h : ledger.Tracks node.engine) (request : NodeRequest) :
    ledger.Settles node request := by
  cases request with
  | spread message => exact settles_spread h message
  | handle raw sender => exact settles_handle h raw sender
  | add message => exact settles_add h message
  | queue id data => exact settles_queue h id data

/-! ## All requests -/

/-- What is sent over a row of requests is what is due for it. -/
theorem Tracks.sends_serveAll (h : ledger.Tracks node.engine) (requests : List NodeRequest) :
    node.Sends (node.serveAll requests) fun peer => ledger.dueAll peer requests := by
  induction requests generalizing ledger node with
  | nil => exact Node.sends_of_peers_eq rfl
  | cons request requests ih =>
    have hfirst := h.settles request
    exact hfirst.sends.trans (ih hfirst.tracks)

end Ledger

namespace Node

/-- The ledger of a node that was asked nothing yet. -/
def openLedger (self : Contact) (settings : NodeSettings) : Ledger where
  self := self
  readOnly := settings.readOnly
  capacity := settings.cacheSize

theorem tracks_new (self : Contact) (settings : NodeSettings) (clock : UInt64) :
    (openLedger self settings).Tracks (new self settings clock).engine := by
  rw [engine_new]
  exact ⟨rfl, rfl, rfl, rfl, Nat.zero_le _⟩

/-- **Outboxes hold what is due.** A node is made with some peers, for each of which at least one
frame may wait, and is asked to do one thing after the other: to flood messages, to process frames of
whatever origin, to take messages into its cache, and to send frames to peers. Then the peers are
those that it was made with, and the last frames that a peer was due wait for it in order, as many as
may wait. -/
theorem outboxes_hold_what_is_due {settings : NodeSettings} (hqueue : 1 ≤ settings.queueSize)
    (self : Contact) (clock : UInt64) (requests : List NodeRequest) :
    ((new self settings clock).serveAll requests).peers.map
        (fun peer => (peer.id, peer.outbox.contents)) =
      settings.peers.mapIdx fun index _ => (⟨index + 1⟩,
        ((openLedger self settings).dueAll ⟨index + 1⟩ requests).rtake settings.queueSize) := by
  have hsends := (tracks_new self settings clock).sends_serveAll requests
  rw [hsends, peers_new, List.mapIdx_eq_zipIdx_map, List.mapIdx_eq_zipIdx_map, List.map_map,
    List.map_map]
  refine List.map_congr_left fun (address, index) _ => ?_
  have hempty : (Outbox.empty settings.queueSize).contents = [] := rfl
  have hcontents := @Outbox.contents_pushAll_eq_rtake (Outbox.empty settings.queueSize) hqueue
    ((openLedger self settings).dueAll ⟨index + 1⟩ requests) (Nat.zero_le _)
  rw [hempty, List.nil_append] at hcontents
  rw [Function.comp_apply, Function.comp_apply, Peer.queueAll_eq]
  exact congrArg (Prod.mk _) hcontents

/-- Two frames may wait for each of two peers. The station floods a message, and then the first peer
sends it another, twice, which asks for an acknowledgement. Then it takes a third message into its
cache and sends a frame to the second peer, for which the first relay makes room in both outboxes. -/
theorem outboxes_hold_what_is_due_of_two :
    let self : Contact := ⟨.user, [65], [], by decide, by decide⟩
    let neighbour : Contact := ⟨.fixed, [66], [], by decide, by decide⟩
    let settings : NodeSettings := { peers := [⟨"b", 1⟩, ⟨"c", 2⟩], queueSize := 2 }
    let own : Message := { Message.make self 1 .cq [] with ttl := 3 }
    let other : Message :=
      { Message.make neighbour 2 .cq [] with ttl := 2, flags := Message.ackFlag, path := ⟨"B"⟩ }
    let requests : List NodeRequest := [.spread own, .handle other.record (some ⟨1⟩),
      .handle other.record (some ⟨2⟩), .add { own with sequence := 3 }, .queue ⟨2⟩ [7]]
    let receipt : Message := { Message.make self 0 .ack (Ack.encode ⟨neighbour, 2⟩) with
      flags := Message.noCacheFlag, path := ⟨"A"⟩ }
    1 ≤ settings.queueSize ∧
      ((new self settings 0).serveAll requests).peers.map
          (fun peer => (peer.id, peer.outbox.contents)) =
        [(⟨1⟩, [(other.hop "A").record, receipt.record]),
          (⟨2⟩, [(other.hop "A").record, [7]])] := by
  intro self neighbour settings own other requests receipt
  have hqueue : 1 ≤ settings.queueSize := by decide
  exact ⟨hqueue, (outboxes_hold_what_is_due hqueue self 0 requests).trans (by decide +kernel)⟩

end Node

end RadioGossip
