import RadioGossip.Proofs.Requests

/-!
# Each message once in a while

A station that accepted a message does not accept it again while its key is cached, and the key is
cached until as many other messages as the cache has room for have pushed it out. So between two
acceptances under one key there lie acceptances under at least that many other keys.

What carries the count is how a key stands in the cache that **remembers** it: behind it stand the
keys that were accepted since, all of them and in order. A key leaves at the front only, so none of
those can leave before it.
-/

namespace RadioGossip

namespace Cache

variable {cache : Cache} {key : Key} {later : List Key} {message : Message}

/-- The cache holds the key, and behind it the keys that were accepted since. -/
structure Remembers (cache : Cache) (key : Key) (later : List Key) : Prop where
  suffix : key :: later <:+ cache.keys
  nodup : (key :: later).Nodup
  size_le : cache.size ≤ cache.capacity

theorem Remembers.mem_keys (h : cache.Remembers key later) : key ∈ cache.keys :=
  h.suffix.subset List.mem_cons_self

/-- A message that was accepted just now is remembered. -/
theorem remembers_insert_self (hcapacity : 1 ≤ cache.capacity)
    (hfresh : cache.contains message.key = false) :
    (cache.insert message).1.Remembers message.key [] where
  suffix := by
    rw [keys_insert_of_fresh hcapacity hfresh]
    exact List.suffix_append _ _
  nodup := List.nodup_cons.mpr ⟨List.not_mem_nil, List.nodup_nil⟩
  size_le := by
    rw [insert_of_fresh hcapacity hfresh]
    simp only [size, List.length_append, List.length_drop, List.length_singleton]
    omega

/-- Another message that is accepted joins those behind the key. It can push out the key only if
with it there are as many of them as the cache has room for. -/
theorem Remembers.insert (h : cache.Remembers key later) (hcapacity : 1 ≤ cache.capacity)
    (hfresh : cache.contains message.key = false) :
    (key :: (later ++ [message.key])).Nodup ∧
      ((cache.insert message).1.Remembers key (later ++ [message.key]) ∨
        cache.capacity ≤ (later ++ [message.key]).length) := by
  obtain ⟨before, hkeys⟩ := h.suffix
  have hnew : message.key ∉ key :: later := fun hmem =>
    contains_eq_false_iff.mp hfresh (h.suffix.subset hmem)
  have hnodup : (key :: (later ++ [message.key])).Nodup := by
    rw [← List.cons_append]
    exact (List.perm_append_singleton _ _).nodup_iff.mpr (List.nodup_cons.mpr ⟨hnew, h.nodup⟩)
  refine ⟨hnodup, ?_⟩
  have hsize : cache.size = before.length + (later.length + 1) := by
    have hlength := congrArg List.length hkeys
    simpa [keys, size] using hlength.symm
  have hle := h.size_le
  by_cases hbefore : cache.size + 1 - cache.capacity ≤ before.length
  · -- Only keys that stand before this one are pushed out.
    refine .inl ⟨?_, hnodup, ?_⟩
    · rw [keys_insert_of_fresh hcapacity hfresh, ← hkeys, List.drop_append_of_le_length hbefore,
        List.append_assoc, List.cons_append]
      exact List.suffix_append _ _
    · rw [insert_of_fresh hcapacity hfresh]
      simp only [size, List.length_append, List.length_drop, List.length_singleton] at hle ⊢
      omega
  · -- At most one key is pushed out, so none stands before this one, and the cache is full.
    refine .inr ?_
    simp only [List.length_append, List.length_singleton]
    omega

end Cache

namespace Engine

variable {engine : Engine} {key : Key} {later : List Key}

/-! ## While a key is cached -/

/-- What becomes of messages with a key that the cache holds: the cache stays as it is, and nothing
is delivered, relayed or answered. A message that is not to be kept is none of the cache's
business. -/
structure Refuses (engine : Engine) (key : Key) : Prop where
  spread : ∀ message : Message, message.key = key → message.isNoCache = false →
    (engine.spread message).1.cache = engine.cache ∧
      ((engine.spread message).2 = .ok [] ∨
        engine.readOnly = true ∧ (engine.spread message).2 = .error .readOnly)
  handle : ∀ (raw : Bytes) (message : Message), Message.decode raw = .ok message →
    message.key = key → message.isNoCache = false →
    (engine.handle raw).1.cache = engine.cache ∧ (engine.handle raw).2 = .ok []
  addToCache : ∀ message : Message, message.key = key →
    (engine.addToCache message).1.cache = engine.cache ∧ (engine.addToCache message).2 = false

theorem refuses_of_contains (h : engine.cache.contains key = true) : engine.Refuses key where
  spread message hkey hno := by
    subst hkey
    cases hwrite : engine.readOnly with
    | true =>
      rw [spread_of_readOnly hwrite]
      exact ⟨rfl, .inr ⟨rfl, rfl⟩⟩
    | false =>
      rw [spread_of_duplicate hwrite hno h]
      exact ⟨rfl, .inl rfl⟩
  handle raw message hraw hkey hno := by
    subst hkey
    cases hloop : message.path.contains engine.callsign with
    | true =>
      rw [handle_of_loop hraw hloop]
      exact ⟨rfl, rfl⟩
    | false =>
      rw [handle_of_duplicate hraw hloop hno h]
      exact ⟨rfl, rfl⟩
  addToCache message hkey := by
    subst hkey
    cases hno : message.isNoCache with
    | true =>
      rw [addToCache_of_noCache hno]
      exact ⟨rfl, rfl⟩
    | false =>
      have hcopy : (if message.path.contains engine.callsign then message
          else message.hop engine.callsign).key = message.key := by
        split <;> rfl
      rw [addToCache_of_kept hno, cache_insert, snd_insert,
        Cache.insert_of_contains (by rwa [hcopy])]
      exact ⟨rfl, rfl⟩

theorem Accepts.key_eq {request : Request} {message : Message} (h : engine.Accepts request message)
    (hkey : key ∈ engine.acceptedKeys request) : key = message.key := by
  rwa [h.acceptedKeys, List.mem_singleton] at hkey

/-- A request under a key that the cache holds is not accepted. -/
theorem not_mem_acceptedKeys_of_contains (h : engine.cache.contains key = true)
    (request : Request) : key ∉ engine.acceptedKeys request := by
  intro hkey
  rcases engine.declines_or_accepts request with hdeclines | ⟨message, haccepts⟩
  · rw [hdeclines.acceptedKeys] at hkey
    cases hkey
  · rw [haccepts.key_eq hkey, haccepts.fresh] at h
    cases h

/-! ## Until it is pushed out -/

/-- A request that was accepted under a key is remembered under it. -/
theorem remembers_after (hcapacity : 1 ≤ engine.cache.capacity) {request : Request}
    (hkey : key ∈ engine.acceptedKeys request) :
    (engine.after request).cache.Remembers key [] := by
  rcases engine.declines_or_accepts request with hdeclines | ⟨message, haccepts⟩
  · rw [hdeclines.acceptedKeys] at hkey
    cases hkey
  · rw [haccepts.key_eq hkey, haccepts.cache]
    exact Cache.remembers_insert_self hcapacity haccepts.fresh

/-- Over a row of requests a key is remembered with all that is accepted on the way, or else so much
was accepted on the way that the key may have been pushed out. -/
theorem remembers_afterAll (hcapacity : 1 ≤ engine.cache.capacity)
    (h : engine.cache.Remembers key later) (requests : List Request) :
    ∃ more, more.Sublist (engine.keysAccepted requests) ∧ (key :: (later ++ more)).Nodup ∧
      ((engine.afterAll requests).cache.Remembers key (later ++ more) ∨
        engine.cache.capacity ≤ (later ++ more).length) := by
  induction requests generalizing engine later with
  | nil =>
    refine ⟨[], .slnil, ?_, .inl ?_⟩
    · rw [List.append_nil]
      exact h.nodup
    · rw [List.append_nil]
      exact h
  | cons request requests ih =>
    have hroom := engine.capacity_afterAll [request]
    rcases engine.declines_or_accepts request with hdeclines | ⟨message, haccepts⟩
    · rw [← hdeclines.cache] at h
      obtain ⟨more, hmore, hnodup, hend⟩ := ih (by rwa [hdeclines.cache]) h
      rw [hdeclines.cache] at hend
      refine ⟨more, ?_, hnodup, hend⟩
      rw [keysAccepted, hdeclines.acceptedKeys]
      exact hmore
    · obtain ⟨hnodup, hremembers | hfull⟩ := h.insert hcapacity haccepts.fresh
      · rw [← haccepts.cache] at hremembers
        obtain ⟨more, hmore, hnodup', hend⟩ := ih (hroom.symm ▸ hcapacity) hremembers
        rw [List.append_assoc] at hnodup' hend
        refine ⟨message.key :: more, ?_, hnodup', hend.imp_right (hroom ▸ ·)⟩
        rw [keysAccepted, haccepts.acceptedKeys]
        exact hmore.cons_cons _
      · refine ⟨[message.key], ?_, hnodup, .inr hfull⟩
        rw [keysAccepted, haccepts.acceptedKeys]
        exact (List.nil_sublist _).cons_cons _

/-- **At most once in a while.** Whatever an engine is asked to do, between two requests that it
accepts under one key it accepts requests under at least as many other keys as its cache has room
for. While a key is cached, nothing with this key is accepted, and the cache stays as it is. -/
theorem accepts_once_per_window {engine : Engine} (hcapacity : 1 ≤ engine.cache.capacity) :
    (∀ (before between : List Request) (first second : Request) (key : Key),
      key ∈ (engine.afterAll before).acceptedKeys first →
      key ∈ (engine.afterAll (before ++ first :: between)).acceptedKeys second →
      ∃ others : List Key,
        others.Sublist ((engine.afterAll (before ++ [first])).keysAccepted between) ∧
        others.Nodup ∧ key ∉ others ∧ engine.cache.capacity ≤ others.length) ∧
    ∀ (requests : List Request) (key : Key),
      (engine.afterAll requests).cache.contains key = true →
      (engine.afterAll requests).Refuses key := by
  refine ⟨fun before between first second key hfirst hsecond => ?_,
    fun requests key hcontains => refuses_of_contains hcontains⟩
  have hroom := engine.capacity_afterAll (before ++ [first])
  have hremembers : (engine.afterAll (before ++ [first])).cache.Remembers key [] := by
    rw [afterAll_append]
    exact remembers_after (by rwa [capacity_afterAll]) hfirst
  obtain ⟨others, hothers, hnodup, hend⟩ :=
    remembers_afterAll (by rwa [hroom]) hremembers between
  rw [← afterAll_append, List.append_assoc, List.singleton_append, List.nil_append, hroom] at hend
  obtain ⟨hkey, hnodup⟩ := List.nodup_cons.mp hnodup
  refine ⟨others, hothers, hnodup, hkey, hend.resolve_left fun hheld => ?_⟩
  -- Were the key still remembered, the second request would not be accepted.
  exact not_mem_acceptedKeys_of_contains (Cache.contains_iff.mpr hheld.mem_keys) second hsecond

/-- A cache with room for two: a message of the station is accepted again, from a neighbour, once two
others came, one from a neighbour and one learned some other way. -/
theorem accepts_once_per_window_of_two :
    let self : Contact := ⟨.user, [65], [], by decide, by decide⟩
    let neighbour : Contact := ⟨.fixed, [66], [], by decide, by decide⟩
    let engine := Engine.new self 2 false
    let message (sequence : UInt64) := { Message.make neighbour sequence .cq [] with ttl := 2 }
    let between : List Request := [.handle (message 2).record, .handle (message 1).record,
      .add (message 3)]
    1 ≤ engine.cache.capacity ∧
      (message 1).key ∈ engine.acceptedKeys (.spread (message 1)) ∧
      (message 1).key ∈ (engine.afterAll (.spread (message 1) :: between)).acceptedKeys
        (.handle (message 1).record) ∧
      ∃ others : List Key,
        others.Sublist ((engine.afterAll [.spread (message 1)]).keysAccepted between) ∧
        others.Nodup ∧ (message 1).key ∉ others ∧ 2 ≤ others.length := by
  intro self neighbour engine message between
  have hcapacity : 1 ≤ engine.cache.capacity := by decide
  have hfirst : (message 1).key ∈ engine.acceptedKeys (.spread (message 1)) := by decide +kernel
  have hsecond : (message 1).key ∈ (engine.afterAll (.spread (message 1) :: between)).acceptedKeys
      (.handle (message 1).record) := by decide +kernel
  exact ⟨hcapacity, hfirst, hsecond,
    (accepts_once_per_window hcapacity).1 [] between _ _ _ hfirst hsecond⟩

end Engine

end RadioGossip
