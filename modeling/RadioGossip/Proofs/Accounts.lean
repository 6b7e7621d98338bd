import RadioGossip.Proofs.MessageRecords
import RadioGossip.Proofs.Requests

/-!
# What the counters say

An engine counts what it does, and what it answers tells how often it did so. Every frame is counted
as processed, every relay and every reply is counted as one. A message that starts here or comes from
a neighbour ends in one of three ways: it is dropped, and then exactly one of the counters of
malformed frames, loops and duplicates says so; it is delivered; or it is refused. What goes into the
cache was delivered and is to be kept, or was added to it.

So the counters **account** for the requests that were answered. That holds for a single request,
whichever case it falls into, and it adds up over a row of them. The cache holds as many messages as
went into it, as long as there is room for them.
-/

namespace RadioGossip

/-! ## Answers -/

namespace Event

/-- Whether the event is a delivery. -/
@[simp] def isDelivery : Event → Bool
  | .deliver _ => true
  | _ => false

/-- Whether the event is a delivery of a message that is to be kept. -/
@[simp] def isKeptDelivery : Event → Bool
  | .deliver message => !message.isNoCache
  | _ => false

/-- Whether the event is a relay. -/
@[simp] def isRelay : Event → Bool
  | .relay _ => true
  | _ => false

/-- Whether the event is a reply. -/
@[simp] def isReply : Event → Bool
  | .reply _ => true
  | _ => false

section About

variable (message : Message) (relay reply : Option Bytes)

@[simp] theorem countP_isDelivery_about :
    (about message relay reply).countP isDelivery = 1 := by
  cases relay <;> cases reply <;> rfl

@[simp] theorem countP_isKeptDelivery_about :
    (about message relay reply).countP isKeptDelivery = if message.isNoCache then 0 else 1 := by
  cases hno : message.isNoCache <;> cases relay <;> cases reply <;>
    simp [about, isKeptDelivery, hno]

@[simp] theorem countP_isRelay_about :
    (about message relay reply).countP isRelay = relay.toList.length := by
  cases relay <;> cases reply <;> rfl

@[simp] theorem countP_isReply_about :
    (about message relay reply).countP isReply = reply.toList.length := by
  cases relay <;> cases reply <;> rfl

end About

end Event

namespace Request

/-- Whether the request is to process a frame. -/
@[simp] def isHandle : Request → Bool
  | .handle _ => true
  | _ => false

/-- Whether the request is to flood a message that starts here. -/
@[simp] def isSpread : Request → Bool
  | .spread _ => true
  | _ => false

end Request

/-- What an engine answers to a request. -/
inductive Answer where
  | spread (outcome : Except SpreadError (List Event))
  | handle (outcome : Except WireError (List Event))
  /-- Whether the cache has grown. -/
  | add (grown : Bool)

namespace Answer

/-- The events of an answer. A refusal has none. -/
@[simp] def events : Answer → List Event
  | .spread (.ok events) => events
  | .handle (.ok events) => events
  | _ => []

/-- Whether a message that starts here was refused. -/
@[simp] def isRefusal : Answer → Bool
  | .spread (.error _) => true
  | _ => false

/-- Whether a message was added to the cache. -/
@[simp] def isGrowth : Answer → Bool
  | .add grown => grown
  | _ => false

end Answer

namespace FloodStats

/-- The counters. -/
@[simp] def counters : List (FloodStats → Nat) :=
  [processed, relayed, duplicates, loops, malformed, acks, inserts]

/-- How many messages were dropped. -/
@[simp] def dropped (stats : FloodStats) : Nat := stats.malformed + stats.loops + stats.duplicates

end FloodStats

namespace Engine

/-- The answer to a request. -/
def answer (engine : Engine) : Request → Answer
  | .spread message => .spread (engine.spread message).2
  | .handle raw => .handle (engine.handle raw).2
  | .add message => .add (engine.addToCache message).2

/-- The answers to a row of requests, in order. -/
def answers (engine : Engine) : List Request → List Answer
  | [] => []
  | request :: requests => engine.answer request :: (engine.after request).answers requests

variable {engine : Engine} {message : Message} {raw : Bytes}

/-! ## What is accepted -/

theorem insert_of_fresh (hcapacity : 1 ≤ engine.cache.capacity)
    (hfresh : engine.cache.contains message.key = false) :
    engine.insert message =
      ({ engine with
          cache := (engine.cache.insert message).1
          stats.inserts := engine.stats.inserts + 1 }, true) := by
  rw [insert, Cache.insert_of_fresh hcapacity hfresh]

/-- The engine with a message taken into its cache, and what is sent for it counted. -/
def taking (engine : Engine) (message : Message) (relay reply : Option Bytes) : Engine :=
  { engine with
    cache := (engine.cache.insert message).1
    stats := { engine.stats with
      relayed := engine.stats.relayed + relay.toList.length
      acks := engine.stats.acks + reply.toList.length
      inserts := engine.stats.inserts + 1 } }

theorem accept_of_fresh (hcapacity : 1 ≤ engine.cache.capacity)
    (hfresh : engine.cache.contains message.key = false) :
    engine.accept message =
      let hopped := message.hop engine.callsign
      (engine.taking hopped (relayOf hopped) (engine.replyTo message),
        Event.about hopped (relayOf hopped) (engine.replyTo message)) := by
  have hinsert : engine.insert (message.hop engine.callsign) = _ :=
    insert_of_fresh hcapacity hfresh
  simp only [accept, hinsert, taking, Event.about]

/-- News from a neighbour is accepted. -/
theorem handle_of_news (hcapacity : 1 ≤ engine.cache.capacity)
    (hraw : Message.decode raw = .ok message) (hnews : engine.IsNews message) :
    engine.handle raw =
      let hopped := message.hop engine.callsign
      ({ engine with stats.processed := engine.stats.processed + 1 }.taking hopped (relayOf hopped)
          (engine.replyTo message),
        .ok (Event.about hopped (relayOf hopped) (engine.replyTo message))) := by
  have haccept := @accept_of_fresh
    { engine with stats.processed := engine.stats.processed + 1 } message hcapacity hnews.fresh
  rw [handle_of_no_loop hraw hnews.no_loop]
  simp only [hnews.kept, hnews.fresh, Bool.false_eq_true, if_false]
  rw [haccept]
  rfl

/-- News that starts here is accepted, unless it should be relayed and cannot be written. -/
theorem spread_of_news (hcapacity : 1 ≤ engine.cache.capacity) (hwrite : engine.readOnly = false)
    (hnews : engine.IsNews message)
    (hwire : (message.hop engine.callsign).ttl ≠ 0 → (message.hop engine.callsign).Fits) :
    engine.spread message =
      let hopped := message.hop engine.callsign
      (engine.taking hopped (relayOf hopped) none,
        .ok (Event.about hopped (relayOf hopped) none)) := by
  have hinsert : engine.insert (message.hop engine.callsign) = _ :=
    insert_of_fresh hcapacity hnews.fresh
  by_cases httl : (message.hop engine.callsign).ttl = 0
  · rw [spread_of_spent hwrite hnews.kept hnews.fresh hnews.no_loop httl, hinsert]
    simp [taking, relayOf, httl, Event.about]
  · have hencode := Message.encode_of_fits (hwire httl)
    simp [spread, hwrite, hnews.kept, hnews.fresh, hnews.no_loop, httl, hencode, hinsert, taking,
      relayOf, Except.toOption, Event.about]

/-! ## Accounts -/

/-- The counters account for the answers to some requests: what was processed, relayed, answered and
put into the cache, and that whatever was not delivered or refused was dropped. No counter moves by
more than one for a request. -/
structure Accounts (before after : Engine) (requests : List Request) (answers : List Answer) :
    Prop where
  processed : after.stats.processed = before.stats.processed + requests.countP Request.isHandle
  relayed : after.stats.relayed =
    before.stats.relayed + (answers.flatMap Answer.events).countP Event.isRelay
  acks : after.stats.acks =
    before.stats.acks + (answers.flatMap Answer.events).countP Event.isReply
  dropped : after.stats.dropped + (answers.flatMap Answer.events).countP Event.isDelivery
      + answers.countP Answer.isRefusal =
    before.stats.dropped + requests.countP Request.isHandle + requests.countP Request.isSpread
  inserts : after.stats.inserts =
    before.stats.inserts + (answers.flatMap Answer.events).countP Event.isKeptDelivery
      + answers.countP Answer.isGrowth
  size : before.cache.size = min before.cache.capacity before.stats.inserts →
    after.cache.size = min before.cache.capacity after.stats.inserts
  bounded : ∀ counter ∈ FloodStats.counters,
    counter after.stats ≤ counter before.stats + requests.length

theorem Accounts.refl (engine : Engine) : Accounts engine engine [] [] where
  processed := rfl
  relayed := rfl
  acks := rfl
  dropped := rfl
  inserts := rfl
  size := id
  bounded _ _ := Nat.le_refl _

theorem Accounts.append {first second third : Engine} {requests requests' : List Request}
    {answers answers' : List Answer} (h : Accounts first second requests answers)
    (h' : Accounts second third requests' answers')
    (hcapacity : second.cache.capacity = first.cache.capacity) :
    Accounts first third (requests ++ requests') (answers ++ answers') where
  processed := by rw [h'.processed, h.processed, List.countP_append, Nat.add_assoc]
  relayed := by
    rw [h'.relayed, h.relayed, List.flatMap_append, List.countP_append, Nat.add_assoc]
  acks := by rw [h'.acks, h.acks, List.flatMap_append, List.countP_append, Nat.add_assoc]
  dropped := by
    have hfirst := h.dropped
    have hsecond := h'.dropped
    simp only [List.flatMap_append, List.countP_append]
    omega
  inserts := by
    have hfirst := h.inserts
    have hsecond := h'.inserts
    simp only [List.flatMap_append, List.countP_append]
    omega
  size hsize := by
    rw [← hcapacity]
    rw [← hcapacity] at hsize
    exact h'.size (by rw [h.size (by rw [hsize, hcapacity]), hcapacity])
  bounded counter hcounter := by
    have hfirst := h.bounded counter hcounter
    have hsecond := h'.bounded counter hcounter
    rw [List.length_append]
    omega

/-- A message that is new and goes into the cache is counted there, as long as there is room. -/
theorem size_insert_of_size_eq (hcapacity : 1 ≤ engine.cache.capacity)
    (hfresh : engine.cache.contains message.key = false)
    (hsize : engine.cache.size = min engine.cache.capacity engine.stats.inserts) :
    (engine.cache.insert message).1.size =
      min engine.cache.capacity (engine.stats.inserts + 1) := by
  rw [Cache.insert_of_fresh hcapacity hfresh]
  simp only [Cache.size, List.length_append, List.length_drop, List.length_singleton] at hsize ⊢
  omega

/-- **A frame** is accounted for. -/
theorem accounts_handle (hcapacity : 1 ≤ engine.cache.capacity) (raw : Bytes) :
    Accounts engine (engine.handle raw).1 [.handle raw] [.handle (engine.handle raw).2] := by
  cases hraw : Message.decode raw with
  | error cause =>
    rw [handle_of_malformed hraw]
    constructor <;> simp
    omega
  | ok message =>
  cases hloop : message.path.contains engine.callsign with
  | true =>
    rw [handle_of_loop hraw hloop]
    constructor <;> simp
    omega
  | false =>
  cases hno : message.isNoCache with
  | true =>
    rw [handle_of_noCache hraw hloop hno]
    constructor <;> simp [hno]
  | false =>
  cases hcached : engine.cache.contains message.key with
  | true =>
    rw [handle_of_duplicate hraw hloop hno hcached]
    constructor <;> simp
    omega
  | false =>
    rw [handle_of_news hcapacity hraw ⟨hno, hcached, hloop⟩]
    constructor
    case size => exact size_insert_of_size_eq hcapacity hcached
    all_goals simp [taking, hno]

/-- **A message that starts here** is accounted for. -/
theorem accounts_spread (hcapacity : 1 ≤ engine.cache.capacity) (message : Message) :
    Accounts engine (engine.spread message).1 [.spread message]
      [.spread (engine.spread message).2] := by
  cases hwrite : engine.readOnly with
  | true =>
    rw [spread_of_readOnly hwrite]
    constructor <;> simp
  | false =>
  cases hno : message.isNoCache with
  | true =>
    rw [spread_of_noCache hwrite hno]
    constructor <;> simp [hno]
  | false =>
  cases hcached : engine.cache.contains message.key with
  | true =>
    rw [spread_of_duplicate hwrite hno hcached]
    constructor <;> simp
    omega
  | false =>
  cases hloop : message.path.contains engine.callsign with
  | true =>
    rw [spread_of_loop hwrite hno hcached hloop]
    constructor <;> simp
    omega
  | false =>
  by_cases hwire : (message.hop engine.callsign).ttl ≠ 0 → (message.hop engine.callsign).Fits
  · rw [spread_of_news hcapacity hwrite ⟨hno, hcached, hloop⟩ hwire]
    constructor
    case size => exact size_insert_of_size_eq hcapacity hcached
    all_goals simp [taking, hno]
  · obtain ⟨httl, hfits⟩ := Classical.not_imp.mp hwire
    obtain ⟨field, length, max, hwire⟩ := Message.encode_eq_tooLong_iff.mpr hfits
    rw [spread_of_unwritable hwrite hno hcached hloop httl hwire]
    constructor <;> simp

/-- **A message that is only added** is accounted for. -/
theorem accounts_add (hcapacity : 1 ≤ engine.cache.capacity) (message : Message) :
    Accounts engine (engine.addToCache message).1 [.add message]
      [.add (engine.addToCache message).2] := by
  cases hno : message.isNoCache with
  | true =>
    rw [addToCache_of_noCache hno]
    constructor <;> simp
  | false =>
  have hadd := engine.addToCache_of_kept hno
  rw [← Message.heldAt] at hadd
  rw [hadd]
  cases hcached : engine.cache.contains (message.heldAt engine.callsign).key with
  | true =>
    have hinsert : engine.insert (message.heldAt engine.callsign) = (engine, false) := by
      rw [insert, Cache.insert_of_contains hcached]
    rw [hinsert]
    constructor <;> simp
  | false =>
    rw [insert_of_fresh hcapacity hcached]
    constructor
    case size => exact size_insert_of_size_eq hcapacity hcached
    all_goals simp

/-- The answer to a request is accounted for, whichever of the three ways it came. -/
theorem accounts_after (hcapacity : 1 ≤ engine.cache.capacity) (request : Request) :
    Accounts engine (engine.after request) [request] [engine.answer request] := by
  cases request with
  | spread message => exact accounts_spread hcapacity message
  | handle raw => exact accounts_handle hcapacity raw
  | add message => exact accounts_add hcapacity message

/-- The answers to a row of requests are accounted for. -/
theorem accounts_afterAll (hcapacity : 1 ≤ engine.cache.capacity) (requests : List Request) :
    Accounts engine (engine.afterAll requests) requests (engine.answers requests) := by
  induction requests generalizing engine with
  | nil => exact Accounts.refl engine
  | cons request requests ih =>
    have hroom := engine.capacity_afterAll [request]
    exact (accounts_after hcapacity request).append (ih (hroom.symm ▸ hcapacity)) hroom

/-- **The counters account for every call.** An engine that has seen nothing yet, with room in its
cache, is asked to do one thing after the other. Then what it counted as processed, relayed and
answered is the number of frames that it was given, and of relays and replies that it returned; every
frame and every message that started here was dropped, which one counter says, or delivered, or
refused; the cache took in what was delivered and is to be kept, and what was added with success,
and it holds as many of those as it has room for. No counter exceeds the number of requests, so
counters of 64 bits do not overflow in fewer than `2 ^ 64` of them. -/
theorem counters_account_for_requests {capacity : Nat} (hcapacity : 1 ≤ capacity) (self : Contact)
    (readOnly : Bool) (requests : List Request) :
    let start := Engine.new self capacity readOnly
    let engine := start.afterAll requests
    let answers := start.answers requests
    let events := answers.flatMap Answer.events
    engine.stats.processed = requests.countP Request.isHandle ∧
    engine.stats.relayed = events.countP Event.isRelay ∧
    engine.stats.acks = events.countP Event.isReply ∧
    requests.countP Request.isHandle + requests.countP Request.isSpread =
      engine.stats.malformed + engine.stats.loops + engine.stats.duplicates
        + events.countP Event.isDelivery + answers.countP Answer.isRefusal ∧
    engine.stats.inserts =
      events.countP Event.isKeptDelivery + answers.countP Answer.isGrowth ∧
    engine.cache.size = min capacity engine.stats.inserts ∧
    (requests.length < 2 ^ 64 → ∀ counter ∈ FloodStats.counters, counter engine.stats < 2 ^ 64) := by
  intro start engine answers events
  have h : Accounts start engine requests answers := accounts_afterAll hcapacity requests
  have hstart : start.stats = {} := rfl
  have hprocessed := h.processed
  have hrelayed := h.relayed
  have hacks := h.acks
  have hdropped := h.dropped
  have hinserts := h.inserts
  simp only [hstart, FloodStats.dropped, Nat.zero_add] at hprocessed hrelayed hacks hdropped hinserts
  refine ⟨hprocessed, hrelayed, hacks, hdropped.symm, hinserts,
    h.size (Nat.min_zero capacity).symm, fun hlength counter hcounter => ?_⟩
  have hbounded := h.bounded counter hcounter
  have hzero : ∀ counter ∈ FloodStats.counters, counter {} = 0 := by simp
  rw [hstart, hzero counter hcounter, Nat.zero_add] at hbounded
  exact Nat.lt_of_le_of_lt hbounded hlength

/-- A station with room for one message hears twice of a message that asks for an acknowledgement,
once of one that came round in a loop, and once of nothing at all. It then floods a message of its
own and adds two, of which it has one. -/
theorem counters_account_for_seven_requests :
    let self : Contact := ⟨.user, [65], [], by decide, by decide⟩
    let neighbour : Contact := ⟨.fixed, [66], [], by decide, by decide⟩
    let message (sequence : UInt64) : Message :=
      { Message.make neighbour sequence .cq [] with ttl := 2, flags := Message.ackFlag }
    let requests : List Request := [.handle (message 1).record, .handle (message 1).record,
      .handle ((message 2).hop "A").record, .handle [], .spread (message 3), .add (message 3),
      .add (message 4)]
    let engine := (Engine.new self 1 false).afterAll requests
    1 ≤ 1 ∧ engine.stats = ⟨4, 2, 1, 1, 1, 1, 3⟩ ∧
      engine.stats.inserts = (((Engine.new self 1 false).answers requests).flatMap
        Answer.events).countP Event.isKeptDelivery
          + ((Engine.new self 1 false).answers requests).countP Answer.isGrowth ∧
      engine.cache.size = min 1 engine.stats.inserts := by
  intro self neighbour message requests engine
  obtain ⟨-, -, -, -, hinserts, hsize, -⟩ :=
    counters_account_for_requests (Nat.le_refl 1) self false requests
  exact ⟨Nat.le_refl 1, by decide +kernel, hinserts, hsize⟩

end Engine

end RadioGossip
