import Mathlib.Data.List.Dedup
import RadioGossip.Proofs.Offers
import RadioGossip.Proofs.Requests

/-!
# Merging without loss

A cache **has room** for some keys when it can hold them beside its own, each of them once. Taking in
messages with these keys then pushes out nothing: the cache has **grown** by them, which means that
what it held stands in front as before, and that what it holds is what it held and what came.

So a station that merges an answer has grown by the keys of the answer.
-/

namespace RadioGossip

namespace Cache

variable {cache first second third : Cache} {keys keys' : List Key} {message : Message}

/-- The cache can hold the keys beside its own. -/
def HasRoomFor (cache : Cache) (keys : List Key) : Prop :=
  (cache.keys ++ keys).dedup.length ≤ cache.capacity

/-- The cache took in the keys and pushed out none. -/
structure Grew (before after : Cache) (keys : List Key) : Prop where
  capacity : after.capacity = before.capacity
  kept : before.keys <+: after.keys
  mem_iff : ∀ key, key ∈ after.keys ↔ key ∈ before.keys ∨ key ∈ keys
  isSound : after.IsSound

theorem Grew.refl (h : cache.IsSound) : cache.Grew cache [] where
  capacity := rfl
  kept := List.prefix_rfl
  mem_iff key := by simp
  isSound := h

theorem Grew.trans (h : first.Grew second keys) (h' : second.Grew third keys') :
    first.Grew third (keys ++ keys') where
  capacity := h'.capacity.trans h.capacity
  kept := h.kept.trans h'.kept
  mem_iff key := by rw [h'.mem_iff, h.mem_iff, List.mem_append, or_assoc]
  isSound := h'.isSound

theorem Grew.subset (h : first.Grew second keys) : second.keys ⊆ first.keys ++ keys :=
  fun _ hkey => List.mem_append.mpr ((h.mem_iff _).mp hkey)

theorem Grew.size_lt (h : first.Grew second keys) {key : Key} (hmem : key ∈ second.keys)
    (hnew : key ∉ first.keys) : first.size < second.size := by
  have hle : first.keys.length ≤ second.keys.length := h.kept.length_le
  have hne : first.keys.length ≠ second.keys.length := by
    intro heq
    rw [h.kept.eq_of_length heq] at hnew
    exact hnew hmem
  simp only [Cache.keys, List.length_map] at hle hne
  simp only [size]
  omega

/-- Fewer keys need no more room. -/
theorem length_dedup_le_of_subset (h : keys ⊆ keys') : keys.dedup.length ≤ keys'.dedup.length :=
  (List.subperm_of_subset keys.nodup_dedup fun _ hkey =>
    List.mem_dedup.mpr (h (List.mem_dedup.mp hkey))).length_le

/-- Where there was room for more, what is left of it is enough for the rest. -/
theorem Grew.hasRoomFor (h : first.Grew second keys) (hroom : first.HasRoomFor (keys ++ keys')) :
    second.HasRoomFor keys' := by
  have hle :
      (second.keys ++ keys').dedup.length ≤ (first.keys ++ (keys ++ keys')).dedup.length := by
    refine length_dedup_le_of_subset ?_
    rw [← List.append_assoc]
    exact List.append_subset.mpr ⟨fun _ hkey => List.mem_append_left _ (h.subset hkey),
      List.subset_append_right _ _⟩
  rw [HasRoomFor, h.capacity]
  exact Nat.le_trans hle hroom

theorem HasRoomFor.mono (h : cache.HasRoomFor keys') (hsubset : keys ⊆ keys') :
    cache.HasRoomFor keys := by
  refine Nat.le_trans (length_dedup_le_of_subset ?_) h
  exact List.append_subset.mpr ⟨List.subset_append_left _ _,
    fun _ hkey => List.mem_append_right _ (hsubset hkey)⟩

/-- **A message for which there is room** is taken in behind all others, unless its key is there. -/
theorem grew_insert (h : cache.IsSound) (hkept : message.isNoCache = false)
    (hroom : cache.HasRoomFor [message.key]) :
    cache.Grew (cache.insert message).1 [message.key] := by
  cases hcontains : cache.contains message.key with
  | true =>
    have hmem := contains_iff.mp hcontains
    rw [insert_of_contains hcontains]
    refine ⟨rfl, List.prefix_rfl, fun key => ?_, h⟩
    rw [List.mem_singleton]
    exact ⟨.inl, fun hkey => hkey.elim id (· ▸ hmem)⟩
  | false =>
    have hfresh := contains_eq_false_iff.mp hcontains
    have hnodup : (cache.keys ++ [message.key]).Nodup :=
      (List.perm_append_singleton _ _).nodup_iff.mpr (List.nodup_cons.mpr ⟨hfresh, h.nodup⟩)
    -- So there is room for one more than the cache holds, and nothing is pushed out.
    have hsize : cache.size + 1 ≤ cache.capacity := by
      rw [HasRoomFor, hnodup.dedup, List.length_append, List.length_singleton] at hroom
      simpa [keys, size] using hroom
    have hkeys : (cache.insert message).1.keys = cache.keys ++ [message.key] := by
      rw [keys_insert_of_fresh (by omega) hcontains, Nat.sub_eq_zero_of_le hsize, List.drop_zero]
    refine ⟨capacity_insert .., ?_, fun key => ?_, h.insert hkept⟩
    · rw [hkeys]
      exact List.prefix_append _ _
    · rw [hkeys, List.mem_append]

end Cache

namespace Engine

theorem grew_addToCache {engine : Engine} {message : Message} (h : engine.cache.IsSound)
    (hkept : message.isNoCache = false) (hroom : engine.cache.HasRoomFor [message.key]) :
    engine.cache.Grew (engine.addToCache message).1.cache [message.key] := by
  rw [addToCache_of_kept hkept, cache_insert]
  split
  · exact Cache.grew_insert h hkept hroom
  · exact Cache.grew_insert h hkept hroom

end Engine

namespace Reconciliation

/-- **Merging** messages for which there is room takes in the keys of all of them. -/
theorem grew_mergeAll {node : Node} {messages : List Message} (h : node.engine.cache.IsSound)
    (hkept : ∀ message ∈ messages, message.isNoCache = false)
    (hroom : node.engine.cache.HasRoomFor (messages.map Message.key)) :
    node.engine.cache.Grew (mergeAll node messages).1.engine.cache (messages.map Message.key) := by
  induction messages generalizing node with
  | nil => exact .refl h
  | cons message messages ih =>
    obtain ⟨hfirst, hothers⟩ := List.forall_mem_cons.mp hkept
    have hgrew : node.engine.cache.Grew (node.addToCache message).1.engine.cache [message.key] :=
      Engine.grew_addToCache h hfirst (hroom.mono (by simp))
    have hrest := ih hgrew.isSound hothers (hgrew.hasRoomFor hroom)
    exact hgrew.trans hrest

end Reconciliation

end RadioGossip
