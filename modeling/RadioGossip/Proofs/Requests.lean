import RadioGossip.Proofs.Decisions

/-!
# Requests to an engine

Three kinds of **requests** reach an engine: to flood a message that starts here, to process a frame
that came from a neighbour, and to take a message into the cache. Each of them has checks of its own
in an order of its own, but what becomes of the cache is one of two things. It stays as it was, or
one message that is to be kept goes into it: the request was **accepted**, under a key that the cache
did not hold.

So in a cache that was filled by requests every key stands once, there are no more messages than
there is room for, and all of them are to be kept: it is **sound**.
-/

namespace RadioGossip

namespace Message

@[simp] theorem isNoCache_hop (message : Message) (callsign : String) :
    (message.hop callsign).isNoCache = message.isNoCache := rfl

/-- The message as a station with this callsign holds it: after its hop through the station, unless
it was there before. -/
def heldAt (message : Message) (callsign : String) : Message :=
  if message.path.contains callsign then message else message.hop callsign

variable {message : Message} {callsign : String}

theorem heldAt_of_no_loop (h : message.path.contains callsign = false) :
    message.heldAt callsign = message.hop callsign := by
  simp [heldAt, h]

/-- What hops leave alone is the same wherever the message is held. -/
theorem heldAt_eq_of_hop {α : Type} {field : Message → α}
    (h : ∀ message callsign, field (message.hop callsign) = field message) (message : Message)
    (callsign : String) : field (message.heldAt callsign) = field message := by
  rw [heldAt]
  split
  · rfl
  · exact h message callsign

@[simp] theorem key_heldAt (message : Message) (callsign : String) :
    (message.heldAt callsign).key = message.key :=
  heldAt_eq_of_hop (fun _ _ => rfl) message callsign

@[simp] theorem source_heldAt (message : Message) (callsign : String) :
    (message.heldAt callsign).source = message.source :=
  heldAt_eq_of_hop (fun _ _ => rfl) message callsign

@[simp] theorem kind_heldAt (message : Message) (callsign : String) :
    (message.heldAt callsign).kind = message.kind :=
  heldAt_eq_of_hop (fun _ _ => rfl) message callsign

end Message

/-! ## Sound caches -/

namespace Cache

variable {cache : Cache} {message : Message}

theorem contains_eq_false_iff {key : Key} : cache.contains key = false ↔ key ∉ cache.keys := by
  rw [← contains_iff, Bool.not_eq_true]

theorem insert_of_contains (h : cache.contains message.key = true) :
    cache.insert message = (cache, false) := by
  simp [insert, h]

theorem insert_of_capacity_eq_zero (h : cache.capacity = 0) (message : Message) :
    cache.insert message = (cache, false) := by
  simp [insert, h]

theorem insert_of_snd_eq_false (h : (cache.insert message).2 = false) :
    cache.insert message = (cache, false) := by
  rw [insert] at h ⊢
  split at h
  · next hrefused => rw [if_pos hrefused]
  · cases h

/-- A message that is taken stands behind those that it does not push out. -/
theorem insert_of_fresh (hcapacity : 1 ≤ cache.capacity)
    (hfresh : cache.contains message.key = false) :
    cache.insert message =
      ({ cache with entries := cache.entries.drop (cache.size + 1 - cache.capacity) ++ [message] },
        true) := by
  have hne : cache.capacity ≠ 0 := Nat.one_le_iff_ne_zero.mp hcapacity
  simp [insert, hne, hfresh]

theorem keys_insert_of_fresh (hcapacity : 1 ≤ cache.capacity)
    (hfresh : cache.contains message.key = false) :
    (cache.insert message).1.keys =
      cache.keys.drop (cache.size + 1 - cache.capacity) ++ [message.key] := by
  rw [insert_of_fresh hcapacity hfresh]
  simp [keys, List.map_drop]

/-- The cache with some messages behind all others. -/
def append (cache : Cache) (messages : List Message) : Cache :=
  { cache with entries := cache.entries ++ messages }

/-- A message for which there is room pushes out nothing. -/
theorem insert_of_room (hroom : cache.size < cache.capacity)
    (hfresh : cache.contains message.key = false) :
    cache.insert message = (cache.append [message], true) := by
  rw [insert_of_fresh (by omega) hfresh, Nat.sub_eq_zero_of_le hroom, List.drop_zero, append]

theorem append_append (cache : Cache) (messages messages' : List Message) :
    (cache.append messages).append messages' = cache.append (messages ++ messages') := by
  simp [append]

theorem keys_append (cache : Cache) (messages : List Message) :
    (cache.append messages).keys = cache.keys ++ messages.map Message.key := by
  simp [keys, append]

/-- What is in a cache after a message was put in was there before, or is the message. -/
theorem mem_entries_insert {entry : Message} (h : entry ∈ (cache.insert message).1.entries) :
    entry ∈ cache.entries ∨ entry = message := by
  by_cases hcontains : cache.contains message.key = true
  · rw [insert_of_contains hcontains] at h
    exact .inl h
  by_cases hcapacity : cache.capacity = 0
  · rw [insert_of_capacity_eq_zero hcapacity] at h
    exact .inl h
  rw [insert_of_fresh (Nat.one_le_iff_ne_zero.mpr hcapacity) (Bool.eq_false_iff.mpr hcontains)] at h
  rcases List.mem_append.mp h with hold | hnew
  · exact .inl (List.mem_of_mem_drop hold)
  · exact .inr (List.mem_singleton.mp hnew)

/-- A message that goes into a cache brings a key that was not there. -/
theorem nodup_keys_insert (h : cache.keys.Nodup) (message : Message) :
    (cache.insert message).1.keys.Nodup := by
  by_cases hcontains : cache.contains message.key = true
  · rwa [insert_of_contains hcontains]
  by_cases hcapacity : cache.capacity = 0
  · rwa [insert_of_capacity_eq_zero hcapacity]
  have hfresh := Bool.eq_false_iff.mpr hcontains
  rw [keys_insert_of_fresh (Nat.one_le_iff_ne_zero.mpr hcapacity) hfresh]
  refine List.nodup_append.mpr ⟨h.sublist (List.drop_sublist _ _), by simp, ?_⟩
  intro key hkey other hother heq
  rw [List.mem_singleton.mp hother] at heq
  exact contains_eq_false_iff.mp hfresh (heq ▸ List.mem_of_mem_drop hkey)

theorem size_insert_le (h : cache.size ≤ cache.capacity) (message : Message) :
    (cache.insert message).1.size ≤ cache.capacity := by
  by_cases hcontains : cache.contains message.key = true
  · rwa [insert_of_contains hcontains]
  by_cases hcapacity : cache.capacity = 0
  · rwa [insert_of_capacity_eq_zero hcapacity]
  have hroom := Nat.one_le_iff_ne_zero.mpr hcapacity
  rw [insert_of_fresh hroom (Bool.eq_false_iff.mpr hcontains)]
  simp only [size, List.length_append, List.length_drop, List.length_singleton] at h ⊢
  omega

/-- What holds of every cache that was filled message by message. -/
structure IsSound (cache : Cache) : Prop where
  nodup : cache.keys.Nodup
  size_le : cache.size ≤ cache.capacity
  kept : ∀ entry ∈ cache.entries, entry.isNoCache = false

theorem isSound_empty (capacity : Nat) : (empty capacity).IsSound :=
  ⟨List.nodup_nil, Nat.zero_le _, nofun⟩

theorem IsSound.insert (h : cache.IsSound) (hkept : message.isNoCache = false) :
    (cache.insert message).1.IsSound where
  nodup := nodup_keys_insert h.nodup message
  size_le := by
    rw [capacity_insert]
    exact size_insert_le h.size_le message
  kept entry hentry := by
    rcases mem_entries_insert hentry with hold | rfl
    · exact h.kept entry hold
    · exact hkept

end Cache

/-! ## Requests -/

/-- What an engine is asked to do. -/
inductive Request where
  /-- To flood a message that starts here. -/
  | spread (message : Message)
  /-- To process a frame that came from a neighbour. -/
  | handle (raw : Bytes)
  /-- To take a message into the cache. -/
  | add (message : Message)
  deriving DecidableEq, Repr

/-- The message that a request brings. A frame that is no message brings none. -/
def Request.message? : Request → Option Message
  | .spread message => some message
  | .handle raw => (Message.decode raw).toOption
  | .add message => some message

@[simp] theorem Request.mem_message?_handle {raw : Bytes} {message : Message} :
    message ∈ (handle raw).message? ↔ Message.decode raw = .ok message := by
  rw [message?]
  cases Message.decode raw <;> simp [Except.toOption]

/-- The message that an event hands to the station, if it does. -/
def Event.delivered? : Event → Option Message
  | .deliver message => some message
  | _ => none

theorem Event.delivered?_about (message : Message) (relay reply : Option Bytes) :
    (about message relay reply).filterMap delivered? = [message] := by
  cases relay <;> cases reply <;> rfl

namespace Engine

/-- The engine after a request. -/
def after (engine : Engine) : Request → Engine
  | .spread message => (engine.spread message).1
  | .handle raw => (engine.handle raw).1
  | .add message => (engine.addToCache message).1

/-- The messages that a request has for the station or its cache: those that are delivered, or the
one that is added. -/
def taken (engine : Engine) : Request → List Message
  | .spread message => ((engine.spread message).2.toOption.getD []).filterMap Event.delivered?
  | .handle raw => ((engine.handle raw).2.toOption.getD []).filterMap Event.delivered?
  | .add message => if (engine.addToCache message).2 then [message] else []

/-- The keys under which a request is accepted. What is not to be kept has none. -/
def acceptedKeys (engine : Engine) (request : Request) : List Key :=
  ((engine.taken request).filter fun message => !message.isNoCache).map Message.key

/-- The request is accepted: a message that is to be kept goes into the cache, whatever the hop
through the station made of it, under a key that the cache did not hold. -/
structure Accepts (engine : Engine) (request : Request) (message : Message) : Prop where
  cache : (engine.after request).cache = (engine.cache.insert message).1
  acceptedKeys : engine.acceptedKeys request = [message.key]
  fresh : engine.cache.contains message.key = false
  kept : message.isNoCache = false

/-- The request is not accepted, and the cache stays as it was. -/
structure Declines (engine : Engine) (request : Request) : Prop where
  cache : (engine.after request).cache = engine.cache
  acceptedKeys : engine.acceptedKeys request = []

variable {engine : Engine} {message : Message}

/-- What was decided about a message is an acceptance, or it leaves the cache alone. -/
theorem declines_or_accepts_of_decides {request : Request} {reply : Option Bytes}
    {events : List Event}
    (hdecides : engine.Decides message reply (engine.after request).cache events)
    (htaken : engine.taken request = events.filterMap Event.delivered?) :
    engine.Declines request ∨ ∃ copy, engine.Accepts request copy := by
  generalize hcache : (engine.after request).cache = cache at hdecides
  cases hdecides with
  | drops => exact .inl ⟨hcache, by rw [acceptedKeys, htaken]; rfl⟩
  | delivers hno =>
    refine .inl ⟨hcache, ?_⟩
    rw [acceptedKeys, htaken, Event.delivered?_about]
    simp [hno]
  | accepts hnews =>
    refine .inr ⟨message.hop engine.callsign, hcache, ?_, hnews.fresh, hnews.kept⟩
    rw [acceptedKeys, htaken, Event.delivered?_about]
    simp [hnews.kept]

theorem declines_or_accepts_spread (engine : Engine) (message : Message) :
    engine.Declines (.spread message) ∨ ∃ copy, engine.Accepts (.spread message) copy := by
  rcases engine.refuses_or_decides_spread message with ⟨cause, h⟩ | ⟨events, hevents, hdecides⟩
  · exact .inl ⟨by rw [after, h], by simp [acceptedKeys, taken, h, Except.toOption]⟩
  · exact declines_or_accepts_of_decides hdecides (by rw [taken, hevents]; rfl)

theorem declines_or_accepts_handle (engine : Engine) (raw : Bytes) :
    engine.Declines (.handle raw) ∨ ∃ copy, engine.Accepts (.handle raw) copy := by
  cases hraw : Message.decode raw with
  | error cause =>
    have h := engine.handle_of_malformed hraw
    exact .inl ⟨by rw [after, h], by simp [acceptedKeys, taken, h, Except.toOption]⟩
  | ok message =>
    obtain ⟨events, hevents, hdecides⟩ := engine.decides_handle hraw
    exact declines_or_accepts_of_decides hdecides (by rw [taken, hevents]; rfl)

theorem declines_or_accepts_add (engine : Engine) (message : Message) :
    engine.Declines (.add message) ∨ ∃ copy, engine.Accepts (.add message) copy := by
  cases hno : message.isNoCache with
  | true =>
    have h := engine.addToCache_of_noCache hno
    exact .inl ⟨by rw [after, h], by simp [acceptedKeys, taken, h]⟩
  | false =>
  have h := engine.addToCache_of_kept hno
  generalize hcopy : (if message.path.contains engine.callsign then message
    else message.hop engine.callsign) = copy at h
  have hkey : copy.key = message.key := by
    rw [← hcopy]
    split <;> rfl
  have hkept : copy.isNoCache = false := by
    rw [← hcopy]
    split <;> exact hno
  have hcache : (engine.after (.add message)).cache = (engine.cache.insert copy).1 := by
    rw [after, h, cache_insert]
  -- What the cache refuses is not accepted either.
  have hdeclined : engine.cache.insert copy = (engine.cache, false) →
      engine.Declines (.add message) := by
    intro hinsert
    exact ⟨by rw [hcache, hinsert], by simp [acceptedKeys, taken, h, hinsert]⟩
  by_cases hcapacity : engine.cache.capacity = 0
  · exact .inl (hdeclined (Cache.insert_of_capacity_eq_zero hcapacity copy))
  cases hcached : engine.cache.contains copy.key with
  | true => exact .inl (hdeclined (Cache.insert_of_contains hcached))
  | false =>
    have hinsert := Cache.insert_of_fresh (Nat.one_le_iff_ne_zero.mpr hcapacity) hcached
    exact .inr ⟨copy, hcache, by simp [acceptedKeys, taken, h, hinsert, hno, hkey], hcached, hkept⟩

/-- **A request is accepted or leaves the cache alone**, whichever of the three ways it came. -/
theorem declines_or_accepts (engine : Engine) (request : Request) :
    engine.Declines request ∨ ∃ message, engine.Accepts request message := by
  cases request with
  | spread message => exact engine.declines_or_accepts_spread message
  | handle raw => exact engine.declines_or_accepts_handle raw
  | add message => exact engine.declines_or_accepts_add message

@[simp] theorem outline_after (engine : Engine) (request : Request) :
    (engine.after request).outline = engine.outline := by
  cases request with
  | spread message => exact engine.outline_spread message
  | handle raw => exact engine.outline_handle raw
  | add message => exact engine.outline_addToCache message

theorem isSound_after (h : engine.cache.IsSound) (request : Request) :
    (engine.after request).cache.IsSound := by
  rcases engine.declines_or_accepts request with hdeclines | ⟨message, haccepts⟩
  · rwa [hdeclines.cache]
  · rw [haccepts.cache]
    exact h.insert haccepts.kept

/-- What a decision puts into the cache is the message, as the station holds it. -/
theorem Decides.mem_entries {reply : Option Bytes} {cache : Cache} {events : List Event}
    (h : engine.Decides message reply cache events) {entry : Message}
    (hentry : entry ∈ cache.entries) :
    entry ∈ engine.cache.entries ∨ entry = message.heldAt engine.callsign := by
  cases h with
  | drops => exact .inl hentry
  | delivers => exact .inl hentry
  | accepts hnews =>
    rw [Message.heldAt_of_no_loop hnews.no_loop]
    exact Cache.mem_entries_insert hentry

/-- **What is in the cache after a request** was there before, or is what the request brought, as the
station holds it. -/
theorem mem_entries_after {request : Request} {entry : Message}
    (hentry : entry ∈ (engine.after request).cache.entries) :
    entry ∈ engine.cache.entries ∨
      ∃ message ∈ request.message?, entry = message.heldAt engine.callsign := by
  cases request with
  | spread message =>
    rcases engine.refuses_or_decides_spread message with ⟨cause, h⟩ | ⟨events, -, hdecides⟩
    · rw [after, h] at hentry
      exact .inl hentry
    · exact (hdecides.mem_entries hentry).imp_right fun heq => ⟨message, rfl, heq⟩
  | handle raw =>
    cases hraw : Message.decode raw with
    | error cause =>
      rw [after, handle_of_malformed hraw] at hentry
      exact .inl hentry
    | ok message =>
      obtain ⟨events, -, hdecides⟩ := engine.decides_handle hraw
      have hmessage := Request.mem_message?_handle.mpr hraw
      exact (hdecides.mem_entries hentry).imp_right fun heq => ⟨message, hmessage, heq⟩
  | add message =>
    cases hno : message.isNoCache with
    | true =>
      rw [after, addToCache_of_noCache hno] at hentry
      exact .inl hentry
    | false =>
      rw [after, addToCache_of_kept hno, cache_insert] at hentry
      exact (Cache.mem_entries_insert hentry).imp_right fun heq => ⟨message, rfl, heq⟩

theorem callsign_after (engine : Engine) (request : Request) :
    (engine.after request).callsign = engine.callsign :=
  congrArg (fun outline => outline.self.callsignText) (engine.outline_after request)

/-! ## Rows of requests -/

/-- The engine after some requests, the first of them first. -/
def afterAll (engine : Engine) (requests : List Request) : Engine := requests.foldl after engine

/-- The keys under which requests of a row are accepted, in order. -/
def keysAccepted (engine : Engine) : List Request → List Key
  | [] => []
  | request :: requests =>
    engine.acceptedKeys request ++ (engine.after request).keysAccepted requests

theorem afterAll_append (engine : Engine) (first second : List Request) :
    engine.afterAll (first ++ second) = (engine.afterAll first).afterAll second :=
  List.foldl_append

@[simp] theorem outline_afterAll (engine : Engine) (requests : List Request) :
    (engine.afterAll requests).outline = engine.outline := by
  induction requests generalizing engine with
  | nil => rfl
  | cons request requests ih => exact (ih (engine.after request)).trans (outline_after ..)

theorem capacity_afterAll (engine : Engine) (requests : List Request) :
    (engine.afterAll requests).cache.capacity = engine.cache.capacity :=
  congrArg Outline.capacity (engine.outline_afterAll requests)

theorem callsign_afterAll (engine : Engine) (requests : List Request) :
    (engine.afterAll requests).callsign = engine.callsign :=
  congrArg (fun outline => outline.self.callsignText) (engine.outline_afterAll requests)

/-- What holds of all that was in the cache, and of all that the requests bring once the station
holds it, holds of all that is in the cache in the end. -/
theorem forall_mem_entries_afterAll (good : Message → Prop) {requests : List Request}
    (hcached : ∀ entry ∈ engine.cache.entries, good entry)
    (hbrought : ∀ request ∈ requests, ∀ message ∈ request.message?,
      good (message.heldAt engine.callsign)) :
    ∀ entry ∈ (engine.afterAll requests).cache.entries, good entry := by
  induction requests generalizing engine with
  | nil => exact hcached
  | cons request requests ih =>
    obtain ⟨hfirst, hothers⟩ := List.forall_mem_cons.mp hbrought
    refine ih (fun entry hentry => ?_) ?_
    · rcases mem_entries_after hentry with hold | ⟨message, hmessage, rfl⟩
      · exact hcached entry hold
      · exact hfirst message hmessage
    · rwa [engine.callsign_after request]

theorem isSound_afterAll (h : engine.cache.IsSound) (requests : List Request) :
    (engine.afterAll requests).cache.IsSound := by
  induction requests generalizing engine with
  | nil => exact h
  | cons request requests ih => exact ih (isSound_after h request)

end Engine

end RadioGossip
