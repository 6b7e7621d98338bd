import RadioGossip.Flood.Engine

/-!
# What an engine decides

The cases of `handle` and `spread` one by one, each under the condition that leads to it, and what
each of them does to the cache. Whatever an engine is asked to do, it stays the engine of the same
station with the same room in its cache: its **outline** does not change.

Where it does not matter why, there are three of them: a message is dropped, it is delivered and no
more, or it is news and is accepted. An engine **decides** for one of these, whether the message came
from a neighbour or starts here.
-/

namespace RadioGossip

/-! ## The cache -/

namespace Cache

@[simp] theorem capacity_insert (cache : Cache) (message : Message) :
    (cache.insert message).1.capacity = cache.capacity := by
  simp only [insert]
  split <;> rfl

theorem contains_of_entries_eq_nil {cache : Cache} (h : cache.entries = []) (key : Key) :
    cache.contains key = false := by
  simp [contains, h]

/-- The first message of a cache that has room for one. -/
theorem entries_insert_of_entries_eq_nil {cache : Cache} (h : cache.entries = [])
    (hcapacity : 1 ≤ cache.capacity) (message : Message) :
    (cache.insert message).1.entries = [message] := by
  have hne : cache.capacity ≠ 0 := Nat.one_le_iff_ne_zero.mp hcapacity
  simp [insert, contains_of_entries_eq_nil h, hne, h]

end Cache

/-- What is decided about a message that is delivered: it may be relayed, and it may be answered. -/
def Event.about (message : Message) (relay reply : Option Bytes) : List Event :=
  .deliver message :: (relay.toList.map .relay ++ reply.toList.map .reply)

namespace Engine

variable {engine : Engine} {raw : Bytes} {message : Message}

@[simp] theorem cache_insert (engine : Engine) (message : Message) :
    (engine.insert message).1.cache = (engine.cache.insert message).1 := by
  simp only [insert]
  split
  · next h => rw [h]
  · next h => rw [h]

@[simp] theorem snd_insert (engine : Engine) (message : Message) :
    (engine.insert message).2 = (engine.cache.insert message).2 := by
  simp only [insert]
  split
  · next h => rw [h]
  · next h => rw [h]

/-! ## Outlines -/

/-- What an engine keeps for good. -/
structure Outline where
  self : Contact
  readOnly : Bool
  capacity : Nat
  deriving DecidableEq, Repr

/-- The outline of an engine. -/
def outline (engine : Engine) : Outline := ⟨engine.self, engine.readOnly, engine.cache.capacity⟩

@[simp] theorem outline_insert (engine : Engine) (message : Message) :
    (engine.insert message).1.outline = engine.outline := by
  have hcapacity := engine.cache.capacity_insert message
  simp only [insert]
  split <;> simp_all [outline]

theorem outline_accept (engine : Engine) (message : Message) :
    (engine.accept message).1.outline = engine.outline :=
  engine.outline_insert (message.hop engine.callsign)

@[simp] theorem outline_handle (engine : Engine) (raw : Bytes) :
    (engine.handle raw).1.outline = engine.outline := by
  simp only [handle]
  split
  · rfl
  · split
    · rfl
    · split
      · rfl
      · split
        · rfl
        · exact outline_accept _ _

@[simp] theorem outline_spread (engine : Engine) (message : Message) :
    (engine.spread message).1.outline = engine.outline := by
  have hinsert := engine.outline_insert (message.hop engine.callsign)
  simp only [spread]
  split
  · rfl
  · split
    · rfl
    · split
      · rfl
      · split
        · rfl
        · split
          · exact hinsert
          · split
            · rfl
            · exact hinsert

@[simp] theorem outline_addToCache (engine : Engine) (message : Message) :
    (engine.addToCache message).1.outline = engine.outline := by
  simp only [addToCache]
  split
  · rfl
  · split
    · exact engine.outline_insert message
    · exact engine.outline_insert _

/-! ## Frames that come in -/

theorem handle_of_malformed {cause : WireError} (hraw : Message.decode raw = .error cause) :
    engine.handle raw =
      ({ engine with stats :=
          { engine.stats with
            processed := engine.stats.processed + 1, malformed := engine.stats.malformed + 1 } },
        .error cause) := by
  simp only [handle, hraw]

theorem handle_of_loop (hraw : Message.decode raw = .ok message)
    (hloop : message.path.contains engine.callsign = true) :
    engine.handle raw =
      ({ engine with stats :=
          { engine.stats with
            processed := engine.stats.processed + 1, loops := engine.stats.loops + 1 } },
        .ok []) := by
  have hcallsign : message.path.contains
      { engine with stats.processed := engine.stats.processed + 1 }.callsign = true := hloop
  simp only [handle, hraw, if_pos hcallsign]

/-- A message that did not come round in a loop is looked at more closely. -/
theorem handle_of_no_loop (hraw : Message.decode raw = .ok message)
    (hloop : message.path.contains engine.callsign = false) :
    engine.handle raw =
      let engine := { engine with stats.processed := engine.stats.processed + 1 }
      if message.isNoCache then (engine, .ok [.deliver message])
      else if engine.cache.contains message.key then
        ({ engine with stats.duplicates := engine.stats.duplicates + 1 }, .ok [])
      else ((engine.accept message).1, .ok (engine.accept message).2) := by
  have hcallsign : ¬ message.path.contains
      { engine with stats.processed := engine.stats.processed + 1 }.callsign = true := by
    rw [Bool.not_eq_true]
    exact hloop
  simp only [handle, hraw, if_neg hcallsign]

theorem handle_of_noCache (hraw : Message.decode raw = .ok message)
    (hloop : message.path.contains engine.callsign = false) (hno : message.isNoCache = true) :
    engine.handle raw =
      ({ engine with stats.processed := engine.stats.processed + 1 }, .ok [.deliver message]) := by
  rw [handle_of_no_loop hraw hloop]
  exact if_pos hno

theorem handle_of_duplicate (hraw : Message.decode raw = .ok message)
    (hloop : message.path.contains engine.callsign = false) (hno : message.isNoCache = false)
    (hcached : engine.cache.contains message.key = true) :
    engine.handle raw =
      ({ engine with stats :=
          { engine.stats with
            processed := engine.stats.processed + 1, duplicates := engine.stats.duplicates + 1 } },
        .ok []) := by
  rw [handle_of_no_loop hraw hloop]
  simp only [hno, hcached]
  rfl

theorem handle_of_fresh (hraw : Message.decode raw = .ok message)
    (hloop : message.path.contains engine.callsign = false) (hno : message.isNoCache = false)
    (hcached : engine.cache.contains message.key = false) :
    (engine.handle raw).1.cache = (engine.cache.insert (message.hop engine.callsign)).1 ∧
      (engine.handle raw).2 = .ok (.deliver (message.hop engine.callsign) ::
        ((relayOf (message.hop engine.callsign)).toList.map .relay ++
          (engine.replyTo message).toList.map .reply)) := by
  rw [handle_of_no_loop hraw hloop]
  simp only [hno, hcached]
  exact ⟨cache_insert _ _, rfl⟩

/-! ## Messages of the station -/

theorem spread_of_readOnly (hwrite : engine.readOnly = true) (message : Message) :
    engine.spread message = (engine, .error .readOnly) := by
  simp only [spread, if_pos hwrite]

theorem spread_of_noCache (hwrite : engine.readOnly = false) (hno : message.isNoCache = true) :
    engine.spread message = (engine, .ok [.deliver message]) := by
  simp [spread, hwrite, hno]

theorem spread_of_duplicate (hwrite : engine.readOnly = false) (hno : message.isNoCache = false)
    (hcached : engine.cache.contains message.key = true) :
    engine.spread message =
      ({ engine with stats.duplicates := engine.stats.duplicates + 1 }, .ok []) := by
  simp [spread, hwrite, hno, hcached]

theorem spread_of_loop (hwrite : engine.readOnly = false) (hno : message.isNoCache = false)
    (hcached : engine.cache.contains message.key = false)
    (hloop : message.path.contains engine.callsign = true) :
    engine.spread message = ({ engine with stats.loops := engine.stats.loops + 1 }, .ok []) := by
  simp [spread, hwrite, hno, hcached, hloop]

/-- A message that should be relayed and cannot be written is refused. -/
theorem spread_of_unwritable {cause : WireError} (hwrite : engine.readOnly = false)
    (hno : message.isNoCache = false) (hcached : engine.cache.contains message.key = false)
    (hloop : message.path.contains engine.callsign = false)
    (httl : (message.hop engine.callsign).ttl ≠ 0)
    (hwire : (message.hop engine.callsign).encode = .error cause) :
    engine.spread message = (engine, .error (.unwritable cause)) := by
  simp [spread, hwrite, hno, hcached, hloop, httl, hwire]

/-- A message whose hop budget is spent need not be written. -/
theorem spread_of_spent (hwrite : engine.readOnly = false) (hno : message.isNoCache = false)
    (hcached : engine.cache.contains message.key = false)
    (hloop : message.path.contains engine.callsign = false)
    (httl : (message.hop engine.callsign).ttl = 0) :
    engine.spread message = ((engine.insert (message.hop engine.callsign)).1,
      .ok [.deliver (message.hop engine.callsign)]) := by
  simp [spread, hwrite, hno, hcached, hloop, httl]

theorem spread_of_fresh (hwrite : engine.readOnly = false) (hno : message.isNoCache = false)
    (hcached : engine.cache.contains message.key = false)
    (hloop : message.path.contains engine.callsign = false)
    (hfits : (message.hop engine.callsign).encode = .ok raw) :
    (engine.spread message).1.cache = (engine.cache.insert (message.hop engine.callsign)).1 ∧
      (engine.spread message).2 = .ok (.deliver (message.hop engine.callsign) ::
        (relayOf (message.hop engine.callsign)).toList.map .relay) := by
  simp only [spread, hwrite, hno, hcached, hloop, relayOf, hfits]
  by_cases httl : (message.hop engine.callsign).ttl = 0
  · simp [httl]
  · simp [httl, Except.toOption]

/-- A message is relayed if it has hops left to go and can be written. -/
theorem relayOf_eq_some_iff :
    relayOf message = some raw ↔ message.ttl ≠ 0 ∧ message.encode = .ok raw := by
  rw [relayOf]
  split
  · next httl => simp [httl]
  · next httl => cases message.encode <;> simp [httl, Except.toOption]

/-! ## Dropped, delivered or accepted -/

/-- The engine has not heard of the message, which is to be kept and has not been here. -/
structure IsNews (engine : Engine) (message : Message) : Prop where
  kept : message.isNoCache = false
  fresh : engine.cache.contains message.key = false
  no_loop : message.path.contains engine.callsign = false

/-- The cache after a decision about a message, and the events that come of it. What is accepted is
answered with the reply, if there is one. -/
inductive Decides (engine : Engine) (message : Message) (reply : Option Bytes) :
    Cache → List Event → Prop where
  /-- The message is dropped. -/
  | drops : Decides engine message reply engine.cache []
  /-- A message without caching is delivered, and that is all. -/
  | delivers (hno : message.isNoCache = true) :
      Decides engine message reply engine.cache (Event.about message none none)
  /-- News is accepted: it makes its hop, and what came of it is kept, delivered and relayed. -/
  | accepts (hnews : engine.IsNews message) :
      Decides engine message reply (engine.cache.insert (message.hop engine.callsign)).1
        (Event.about (message.hop engine.callsign) (relayOf (message.hop engine.callsign)) reply)

/-- **A message from a neighbour** is always decided about. -/
theorem decides_handle (hraw : Message.decode raw = .ok message) :
    ∃ events, (engine.handle raw).2 = .ok events ∧
      engine.Decides message (engine.replyTo message) (engine.handle raw).1.cache events := by
  cases hloop : message.path.contains engine.callsign with
  | true =>
    rw [handle_of_loop hraw hloop]
    exact ⟨_, rfl, .drops⟩
  | false =>
  cases hno : message.isNoCache with
  | true =>
    rw [handle_of_noCache hraw hloop hno]
    exact ⟨_, rfl, .delivers hno⟩
  | false =>
  cases hcached : engine.cache.contains message.key with
  | true =>
    rw [handle_of_duplicate hraw hloop hno hcached]
    exact ⟨_, rfl, .drops⟩
  | false =>
    obtain ⟨hcache, hevents⟩ := handle_of_fresh hraw hloop hno hcached
    rw [hcache]
    exact ⟨_, hevents, .accepts ⟨hno, hcached, hloop⟩⟩

/-- **A message that starts here** is refused, and then nothing changes, or else decided about. -/
theorem refuses_or_decides_spread (engine : Engine) (message : Message) :
    (∃ cause, engine.spread message = (engine, .error cause)) ∨
      ∃ events, (engine.spread message).2 = .ok events ∧
        engine.Decides message none (engine.spread message).1.cache events := by
  cases hwrite : engine.readOnly with
  | true => exact .inl ⟨_, spread_of_readOnly hwrite message⟩
  | false =>
  cases hno : message.isNoCache with
  | true =>
    rw [spread_of_noCache hwrite hno]
    exact .inr ⟨_, rfl, .delivers hno⟩
  | false =>
  cases hcached : engine.cache.contains message.key with
  | true =>
    rw [spread_of_duplicate hwrite hno hcached]
    exact .inr ⟨_, rfl, .drops⟩
  | false =>
  cases hloop : message.path.contains engine.callsign with
  | true =>
    rw [spread_of_loop hwrite hno hcached hloop]
    exact .inr ⟨_, rfl, .drops⟩
  | false =>
  have haccepts : engine.Decides message none _ _ := .accepts ⟨hno, hcached, hloop⟩
  by_cases httl : (message.hop engine.callsign).ttl = 0
  · have hrelay : relayOf (message.hop engine.callsign) = none := if_pos httl
    rw [hrelay] at haccepts
    rw [spread_of_spent hwrite hno hcached hloop httl, cache_insert]
    exact .inr ⟨_, rfl, haccepts⟩
  cases hwire : (message.hop engine.callsign).encode with
  | error cause => exact .inl ⟨_, spread_of_unwritable hwrite hno hcached hloop httl hwire⟩
  | ok wire =>
    obtain ⟨hcache, hevents⟩ := spread_of_fresh hwrite hno hcached hloop hwire
    rw [hcache]
    exact .inr ⟨_, by simpa [Event.about] using hevents, haccepts⟩

/-! ## Messages learned some other way -/

theorem addToCache_of_noCache (hno : message.isNoCache = true) :
    engine.addToCache message = (engine, false) := by
  rw [addToCache, if_pos hno]

/-- A hop is recorded unless the path names the station already. -/
theorem addToCache_of_kept (hno : message.isNoCache = false) :
    engine.addToCache message =
      engine.insert (if message.path.contains engine.callsign then message
        else message.hop engine.callsign) := by
  simp only [addToCache, hno, Bool.false_eq_true, if_false]
  split <;> rfl

end Engine

end RadioGossip
