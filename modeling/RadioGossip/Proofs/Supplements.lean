import RadioGossip.Proofs.CatchingUp

/-!
# Filling gaps in one exchange

What a cache **lacks** of another are the messages that the other holds under keys that it does not
hold. When its own keys fit a query, and what it lacks fits an answer, the query names all that it
holds and the answer is all that it lacks. When there is room for this besides, the station takes
in each of these messages and pushes out nothing: the cache is then **supplemented**.

What a station takes in it holds under keys that the other station named. So it makes no difference
to its own answer whether it answers before or after: of what it took in, the other lacks nothing.
-/

namespace RadioGossip

/-! ## Caches -/

namespace Cache

variable {cache cache' : Cache} {message : Message} {callsign : String} {key : Key}

/-- What a cache lacks of another, in the order of the other. -/
def lacking (cache cache' : Cache) : List Message :=
  cache'.entries.filter fun message => !cache.contains message.key

/-- The cache with what it lacks of another, as a station with this callsign holds it. -/
def supplemented (cache cache' : Cache) (callsign : String) : Cache :=
  cache.append ((cache.lacking cache').map (·.heldAt callsign))

theorem mem_lacking_iff :
    message ∈ cache.lacking cache' ↔ message ∈ cache'.entries ∧ message.key ∉ cache.keys := by
  rw [lacking, List.mem_filter, Bool.not_eq_true', contains_eq_false_iff]

theorem keys_supplemented (cache cache' : Cache) (callsign : String) :
    (cache.supplemented cache' callsign).keys =
      cache.keys ++ (cache.lacking cache').map Message.key := by
  rw [supplemented, keys_append, List.map_map]
  refine congrArg (cache.keys ++ ·) (List.map_congr_left fun message _ => ?_)
  exact message.key_heldAt callsign

/-- A cache that was supplemented holds the keys of both. -/
theorem mem_keys_supplemented_iff :
    key ∈ (cache.supplemented cache' callsign).keys ↔ key ∈ cache.keys ∨ key ∈ cache'.keys := by
  rw [keys_supplemented, List.mem_append]
  constructor
  · rintro (hown | hlacked)
    · exact .inl hown
    · obtain ⟨message, hmessage, rfl⟩ := List.mem_map.mp hlacked
      exact .inr (List.mem_map_of_mem (mem_lacking_iff.mp hmessage).1)
  · intro hkey
    by_cases hown : key ∈ cache.keys
    · exact .inl hown
    · obtain ⟨message, hmessage, rfl⟩ := List.mem_map.mp (hkey.resolve_left hown)
      exact .inr (List.mem_map_of_mem (mem_lacking_iff.mpr ⟨hmessage, hown⟩))

/-- It holds each of them once. -/
theorem nodup_keys_supplemented (h : cache.keys.Nodup) (h' : cache'.keys.Nodup)
    (callsign : String) : (cache.supplemented cache' callsign).keys.Nodup := by
  rw [keys_supplemented]
  have hlacked : ((cache.lacking cache').map Message.key).Nodup :=
    h'.sublist (List.filter_sublist.map Message.key)
  refine List.nodup_append.mpr ⟨h, hlacked, ?_⟩
  intro key hown other hother heq
  obtain ⟨message, hmessage, rfl⟩ := List.mem_map.mp hother
  exact (mem_lacking_iff.mp hmessage).2 (heq ▸ hown)

end Cache

/-! ## Merging -/

namespace Engine

variable {engine : Engine} {message : Message}

/-- What is held is canonical where all that comes is. -/
theorem isCanonical_afterAll {requests : List Request}
    (hcached : ∀ entry ∈ engine.cache.entries, entry.IsCanonical)
    (hrequests : ∀ request ∈ requests, ∀ message ∈ request.message?, message.IsCanonical) :
    ∀ entry ∈ (engine.afterAll requests).cache.entries, entry.IsCanonical := by
  refine forall_mem_entries_afterAll Message.IsCanonical hcached ?_
  intro request hrequest message hmessage
  obtain ⟨hsource, hkind⟩ := hrequests request hrequest message hmessage
  refine ⟨?_, ?_⟩
  · rwa [Message.source_heldAt]
  · rwa [Message.kind_heldAt]

/-- A message for which there is room is added behind all others. -/
theorem addToCache_of_room (hkept : message.isNoCache = false)
    (hroom : engine.cache.size < engine.cache.capacity)
    (hfresh : engine.cache.contains message.key = false) :
    engine.addToCache message =
      ({ engine with
          cache := engine.cache.append [message.heldAt engine.callsign]
          stats.inserts := engine.stats.inserts + 1 }, true) := by
  have hnew : engine.cache.contains (message.heldAt engine.callsign).key = false := by
    rwa [Message.key_heldAt]
  rw [addToCache_of_kept hkept, ← Message.heldAt, insert, Cache.insert_of_room hroom hnew]

end Engine

namespace Reconciliation

variable {node : Node} {messages : List Message}

/-- **Merging** messages under new keys for which there is room takes in all of them, in order, and
relays none. -/
theorem mergeAll_of_room (hkept : ∀ message ∈ messages, message.isNoCache = false)
    (hnodup : (node.engine.cache.keys ++ messages.map Message.key).Nodup)
    (hroom : node.engine.cache.size + messages.length ≤ node.engine.cache.capacity) :
    (mergeAll node messages).2 = messages.length ∧
      (mergeAll node messages).1.engine.cache =
        node.engine.cache.append (messages.map (·.heldAt node.engine.callsign)) ∧
      (mergeAll node messages).1.engine.stats.relayed = node.engine.stats.relayed := by
  induction messages generalizing node with
  | nil => exact ⟨rfl, by simp [mergeAll, Cache.append], rfl⟩
  | cons message messages ih =>
    obtain ⟨hfirst, hothers⟩ := List.forall_mem_cons.mp hkept
    rw [List.length_cons] at hroom
    have hfresh : node.engine.cache.contains message.key = false := by
      rw [Cache.contains_eq_false_iff]
      intro hheld
      exact (List.nodup_append.mp hnodup).2.2 _ hheld _ List.mem_cons_self rfl
    have hadded := Engine.addToCache_of_room hfirst (by omega) hfresh
    -- The first message takes its place, and the others follow it.
    have hcallsign : (node.addToCache message).1.engine.callsign = node.engine.callsign := by
      rw [Node.addToCache, hadded]
      rfl
    have hcache : (node.addToCache message).1.engine.cache =
        node.engine.cache.append [message.heldAt node.engine.callsign] := by
      rw [Node.addToCache, hadded]
    obtain ⟨hcount, hheld, hrelayed⟩ := @ih (node.addToCache message).1 hothers
      (by
        rw [hcache, Cache.keys_append, List.map_singleton, Message.key_heldAt, List.append_assoc]
        exact hnodup)
      (by
        rw [hcache]
        simp only [Cache.size, Cache.append, List.length_append, List.length_singleton] at hroom ⊢
        omega)
    refine ⟨?_, ?_, ?_⟩
    · have htaken : (node.addToCache message).2 = true := by rw [Node.addToCache, hadded]
      have hsum : (mergeAll node (message :: messages)).2 =
          (node.addToCache message).2.toNat + (mergeAll (node.addToCache message).1 messages).2 := rfl
      rw [hsum, htaken, hcount, List.length_cons, Bool.toNat_true, Nat.add_comm]
    · rw [mergeAll, hheld, hcache, hcallsign, Cache.append_append]
      rfl
    · rw [mergeAll, hrelayed, Node.addToCache, hadded]

end Reconciliation

/-! ## One exchange -/

namespace Cache

/-- One exchange can bring a cache all that it lacks of another: its keys fit a query, what it lacks
fits an answer, and there is room for it. -/
structure CanCatchUp (cache cache' : Cache) : Prop where
  isSound : cache.IsSound
  canonical : ∀ entry ∈ cache.entries, entry.IsCanonical
  room : cache.HasRoomFor cache'.keys
  query : countLength + (cache.keys.map CacheQuery.keyLength).sum ≤ Update.maxDataLength
  answer : countLength + ((cache.lacking cache').map Message.encodedLength).sum ≤
    Update.maxDataLength

variable {cache cache' : Cache} {callsign : String}

/-- What it lacks has its place beside what it holds. -/
theorem CanCatchUp.size_add_le (h : cache.CanCatchUp cache') (h' : cache'.CanCatchUp cache) :
    cache.size + (cache.lacking cache').length ≤ cache.capacity := by
  have hnodup := nodup_keys_supplemented h.isSound.nodup h'.isSound.nodup ""
  have hsubset : (cache.supplemented cache' "").keys ⊆ (cache.keys ++ cache'.keys).dedup := by
    intro key hkey
    exact List.mem_dedup.mpr (List.mem_append.mpr (mem_keys_supplemented_iff.mp hkey))
  have hle := (List.subperm_of_subset hnodup hsubset).length_le
  have hroom := h.room
  rw [keys_supplemented, List.length_append, List.length_map] at hle
  simp only [HasRoomFor, keys, size, List.length_map] at hle hroom ⊢
  omega

/-- What it lacks comes over the wire as it is. -/
theorem CanCatchUp.map_canonical_lacking (h' : cache'.CanCatchUp cache) :
    (cache.lacking cache').map Message.canonical = cache.lacking cache' := by
  refine (List.map_congr_left fun message hmessage => ?_).trans (List.map_id _)
  exact Message.canonical_eq_self_iff.mpr (h'.canonical message (mem_lacking_iff.mp hmessage).1)

end Cache

namespace Reconciliation

variable {cache cache' : Cache}

theorem named_keys_eq_self (h : cache.CanCatchUp cache') : named cache.keys = cache.keys := by
  refine named_eq_self (fun key hkey => ?_) h.query
  obtain ⟨message, hmessage, rfl⟩ := List.mem_map.mp hkey
  exact (h.canonical message hmessage).1

/-- What is missing from a side that can catch up is what it lacks. -/
theorem missing_eq_lacking (h : cache.CanCatchUp cache') :
    missing cache.keys cache'.entries = cache.lacking cache' := by
  refine List.filter_congr fun message _ => ?_
  have hsame : cache.keys.any message.hasKey = cache.contains message.key := by
    rw [Bool.eq_iff_iff, Cache.contains_iff, List.any_eq_true]
    simp only [Message.hasKey_iff, exists_eq_right']
  rw [named_keys_eq_self h, hsame]

/-- All of it is offered. -/
theorem offered_eq_lacking (h : cache.CanCatchUp cache') :
    offered cache.keys cache'.entries = cache.lacking cache' := by
  rw [offered_eq, missing_eq_lacking h]
  exact fittingMessages_eq_self h.answer

/-- **The answer does not depend on when it is given.** What the other side took in meanwhile it took
from this one. -/
theorem answerFor_supplemented (h : cache.CanCatchUp cache') (callsign : String) :
    answerFor cache.keys (cache'.supplemented cache callsign).entries =
      answerFor cache.keys cache'.entries := by
  have hmissing : missing cache.keys (cache'.supplemented cache callsign).entries =
      missing cache.keys cache'.entries := by
    have hnone : missing cache.keys ((cache'.lacking cache).map (·.heldAt callsign)) = [] := by
      refine List.eq_nil_iff_forall_not_mem.mpr fun copy hcopy => ?_
      obtain ⟨hheld, hnew⟩ := mem_missing_iff.mp hcopy
      obtain ⟨message, hmessage, rfl⟩ := List.mem_map.mp hheld
      rw [named_keys_eq_self h, Message.key_heldAt] at hnew
      exact hnew (List.mem_map_of_mem (Cache.mem_lacking_iff.mp hmessage).1)
    rw [Cache.supplemented, Cache.append, missing, List.filter_append, ← missing, ← missing, hnone,
      List.append_nil]
  exact congrArg (fun messages => CacheAnswer.mk (fittingMessages countLength messages)) hmissing

end Reconciliation

/-! ## One side -/

namespace Station

variable {station : Station} {cache cache' : Cache}

/-- **A station that is offered all it lacks** takes in all of it and sends nothing. -/
theorem Reconciles.supplements (h : station.Reconciles) {frame : Bytes}
    (hcache : station.node.engine.cache = cache) (hcatch : cache.CanCatchUp cache')
    (hcatch' : cache'.CanCatchUp cache)
    (hframe : Reconciliation.CarriesUpdate frame
      ⟨.cacheResponse, (Reconciliation.answerFor cache.keys cache'.entries).record⟩)
    (peer : PeerId) :
    (station.handle frame (some peer)).node.peers = station.node.peers ∧
      (station.handle frame (some peer)).node.engine.cache =
        cache.supplemented cache' station.callsign ∧
      (station.handle frame (some peer)).node.engine.stats.relayed =
        station.node.engine.stats.relayed ∧
      (station.handle frame (some peer)).merged =
        station.merged + (cache.lacking cache').length := by
  obtain ⟨node, hheard, hpeers, hengine, hmerged⟩ := h.merges_all hframe peer
  rw [Reconciliation.offered_eq_lacking hcatch, hcatch'.map_canonical_lacking] at hengine hmerged
  have hcache' : node.engine.cache = cache := by rw [hheard, ← hcache]
  have hkept : ∀ message ∈ cache.lacking cache', message.isNoCache = false :=
    fun message hmessage => hcatch'.isSound.kept message (Cache.mem_lacking_iff.mp hmessage).1
  have hnodup : (node.engine.cache.keys ++ (cache.lacking cache').map Message.key).Nodup := by
    rw [hcache', ← Cache.keys_supplemented cache cache' ""]
    exact Cache.nodup_keys_supplemented hcatch.isSound.nodup hcatch'.isSound.nodup ""
  obtain ⟨hcount, htaken, hrelayed⟩ := Reconciliation.mergeAll_of_room hkept hnodup
    (by rw [hcache']; exact hcatch.size_add_le hcatch')
  refine ⟨hpeers, ?_, ?_, ?_⟩
  · rw [hengine, htaken, hcache', hheard]
    rfl
  · rw [hengine, hrelayed, hheard]
  · rw [hmerged, hcount]

end Station

end RadioGossip
