import Mathlib.Data.Finset.Basic
import Mathlib.Data.Finset.Dedup
import RadioGossip.Proofs.Requests

/-!
# Caches with an index

Of the messages that are put into a cache, it takes some, and of those that it took it **holds the
last**, as many as it has room for: it is a first-in-first-out queue of messages with distinct keys.

A cache that is searched often keeps an **index** beside the queue of its messages: the set of their
keys. It makes room by evicting the oldest message, from both, as long as it is full. That would never
end where there is no room at all, so nothing is put in there; anywhere else it ends when the cache is
found to be full no more, which is the second time at the latest. Queue and index stay in step, and an
indexed cache does what the cache does whose entries are its queue.
-/

namespace RadioGossip

/-! ## The last ones -/

namespace Cache

variable {cache : Cache} {taken : List Message} {message : Message}

/-- The cache after some messages were put in, the first of them first, and those that it took. -/
def insertAll (cache : Cache) : List Message → Cache × List Message
  | [] => (cache, [])
  | message :: messages =>
    let (cache, accepted) := cache.insert message
    let (cache, others) := cache.insertAll messages
    (cache, if accepted then message :: others else others)

theorem capacity_insertAll (cache : Cache) (messages : List Message) :
    (cache.insertAll messages).1.capacity = cache.capacity := by
  induction messages generalizing cache with
  | nil => rfl
  | cons message messages ih => exact (ih (cache.insert message).1).trans (capacity_insert ..)

/-- The cache holds the last of the messages that it took, as many as it has room for, and no two of
them have one key. -/
structure HoldsLast (cache : Cache) (taken : List Message) : Prop where
  suffix : cache.entries <:+ taken
  size_eq : cache.size = min cache.capacity taken.length
  nodup : cache.keys.Nodup

theorem holdsLast_empty (capacity : Nat) : (empty capacity).HoldsLast [] where
  suffix := List.suffix_rfl
  size_eq := (Nat.min_zero capacity).symm
  nodup := List.nodup_nil

/-- A message is taken where there is room for one and no other has its key. -/
theorem snd_insert_eq_true_iff :
    (cache.insert message).2 = true ↔ 0 < cache.capacity ∧ message.key ∉ cache.keys := by
  rw [← contains_eq_false_iff]
  cases hcontains : cache.contains message.key with
  | true => simp [insert_of_contains hcontains]
  | false =>
    rcases Nat.eq_zero_or_pos cache.capacity with hzero | hpos
    · simp [insert_of_capacity_eq_zero hzero, hzero]
    · simp [insert_of_fresh hpos hcontains, hpos]

theorem HoldsLast.insert (h : cache.HoldsLast taken)
    (haccepted : (cache.insert message).2 = true) :
    (cache.insert message).1.HoldsLast (taken ++ [message]) := by
  obtain ⟨hpos, hnew⟩ := snd_insert_eq_true_iff.mp haccepted
  have hinsert := insert_of_fresh hpos (contains_eq_false_iff.mpr hnew)
  have hsize := h.size_eq
  refine ⟨?_, ?_, nodup_keys_insert h.nodup message⟩
  · obtain ⟨older, htaken⟩ := (List.drop_suffix (cache.size + 1 - cache.capacity) _).trans h.suffix
    rw [hinsert]
    exact ⟨older, by rw [← List.append_assoc, htaken]⟩
  · rw [capacity_insert, hinsert]
    simp only [size, List.length_append, List.length_drop, List.length_singleton] at hsize ⊢
    omega

/-- **A cache holds the last** of what it took, whatever is put in. -/
theorem HoldsLast.insertAll (h : cache.HoldsLast taken) (messages : List Message) :
    (cache.insertAll messages).1.HoldsLast (taken ++ (cache.insertAll messages).2) := by
  induction messages generalizing cache taken with
  | nil =>
    rw [Cache.insertAll, List.append_nil]
    exact h
  | cons message messages ih =>
    simp only [Cache.insertAll]
    cases haccepted : (cache.insert message).2 with
    | false =>
      have hsame := insert_of_snd_eq_false haccepted
      rw [hsame]
      exact ih h
    | true =>
      have hrest := ih (h.insert haccepted)
      rw [List.append_assoc, List.singleton_append] at hrest
      exact hrest

end Cache

/-! ## The index -/

/-- A cache with an index of its keys. -/
structure IndexedCache where
  capacity : Nat
  /-- The messages, the oldest first. -/
  queue : List Message
  /-- The keys of the messages. -/
  index : Finset Key
  deriving DecidableEq

namespace IndexedCache

/-- A cache without messages. -/
def empty (capacity : Nat) : IndexedCache := ⟨capacity, [], ∅⟩

/-- A copy of the messages, the oldest first. -/
def snapshot (cache : IndexedCache) : List Message := cache.queue

/-- The keys of the messages, the oldest first. -/
def keys (cache : IndexedCache) : List Key := cache.queue.map Message.key

/-- Whether a message has this key. Only the index is searched. -/
def contains (cache : IndexedCache) (key : Key) : Bool := key ∈ cache.index

/-- Takes the oldest message out of the queue, if there is one, and its key out of the index. -/
def evictOldest (cache : IndexedCache) : IndexedCache :=
  match cache.queue with
  | [] => cache
  | oldest :: others => { cache with queue := others, index := cache.index.erase oldest.key }

/-- Evicts the oldest message as long as the cache is full. There is no result if it is found full
every one of so many times. -/
def makeRoom? (cache : IndexedCache) : (tests : Nat) → Option IndexedCache
  | 0 => none
  | tests + 1 =>
    if cache.capacity ≤ cache.queue.length then cache.evictOldest.makeRoom? tests else some cache

/-- Appends a message and says whether it was taken. There is no result if making room for it has
none. -/
def insert? (cache : IndexedCache) (tests : Nat) (message : Message) :
    Option (IndexedCache × Bool) :=
  if cache.capacity = 0 then some (cache, false)
  else if cache.contains message.key then some (cache, false)
  else do
    let roomy ← cache.makeRoom? tests
    return ({ roomy with
      queue := roomy.queue ++ [message]
      index := insert message.key roomy.index }, true)

/-- The cache after some messages were put in, the first of them first, and those that it took. -/
def insertAll? (cache : IndexedCache) (tests : Nat) :
    List Message → Option (IndexedCache × List Message)
  | [] => some (cache, [])
  | message :: messages => do
    let (cache, accepted) ← cache.insert? tests message
    let (cache, others) ← cache.insertAll? tests messages
    return (cache, if accepted then message :: others else others)

/-! ## Making room -/

theorem makeRoom?_of_lt {cache : IndexedCache} (h : cache.queue.length < cache.capacity)
    (tests : Nat) : cache.makeRoom? (tests + 1) = some cache := by
  rw [makeRoom?, if_neg (Nat.not_le.mpr h)]

theorem makeRoom?_of_le {cache : IndexedCache} (h : cache.capacity ≤ cache.queue.length)
    (tests : Nat) : cache.makeRoom? (tests + 1) = cache.evictOldest.makeRoom? tests := by
  rw [makeRoom?, if_pos h]

end IndexedCache

namespace Cache

variable {cache : Cache}

/-- The cache with an index of its keys. -/
def indexed (cache : Cache) : IndexedCache :=
  ⟨cache.capacity, cache.entries, cache.keys.toFinset⟩

theorem contains_indexed (cache : Cache) (key : Key) :
    cache.indexed.contains key = cache.contains key := by
  rw [Bool.eq_iff_iff, contains_iff, IndexedCache.contains, decide_eq_true_iff, indexed,
    List.mem_toFinset]

/-- Evicting the oldest message keeps queue and index in step, for no other has its key. -/
theorem evictOldest_indexed {capacity : Nat} {oldest : Message} {others : List Message}
    (hnodup : (mk capacity (oldest :: others)).keys.Nodup) :
    (mk capacity (oldest :: others)).indexed.evictOldest = (mk capacity others).indexed := by
  have hnew : oldest.key ∉ (mk capacity others).keys.toFinset := by
    rw [List.mem_toFinset]
    exact (List.nodup_cons.mp hnodup).1
  have herase : (mk capacity (oldest :: others)).keys.toFinset.erase oldest.key =
      (mk capacity others).keys.toFinset := by
    rw [keys, List.map_cons, List.toFinset_cons]
    exact Finset.erase_insert hnew
  exact congrArg (IndexedCache.mk capacity others) herase

/-- **Making room** comes to an end once all that is too much is evicted, and leaves of the last
messages those that stand beside a new one. -/
theorem makeRoom?_indexed {capacity : Nat} {entries : List Message} (hpos : 0 < capacity)
    (hnodup : (mk capacity entries).keys.Nodup) {tests : Nat}
    (htests : entries.length + 1 - capacity < tests) :
    (mk capacity entries).indexed.makeRoom? tests =
      some (mk capacity (entries.drop (entries.length + 1 - capacity))).indexed := by
  induction entries generalizing tests with
  | nil =>
    obtain ⟨tests, rfl⟩ := Nat.exists_eq_succ_of_ne_zero (Nat.ne_zero_of_lt htests)
    have hsurplus : ([] : List Message).length + 1 - capacity = 0 := Nat.sub_eq_zero_of_le hpos
    rw [hsurplus, List.drop_zero]
    apply IndexedCache.makeRoom?_of_lt
    exact hpos
  | cons oldest others ih =>
    obtain ⟨tests, rfl⟩ := Nat.exists_eq_succ_of_ne_zero (Nat.ne_zero_of_lt htests)
    by_cases hfull : capacity ≤ (oldest :: others).length
    · have hsurplus : (oldest :: others).length + 1 - capacity = others.length + 1 - capacity + 1 := by
        rw [List.length_cons] at hfull ⊢
        omega
      rw [hsurplus] at htests
      rw [IndexedCache.makeRoom?_of_le hfull, evictOldest_indexed hnodup,
        ih (List.nodup_cons.mp hnodup).2 (Nat.lt_of_succ_lt_succ htests), hsurplus,
        List.drop_succ_cons]
    · have hlt := Nat.not_le.mp hfull
      rw [Nat.sub_eq_zero_of_le hlt, List.drop_zero]
      apply IndexedCache.makeRoom?_of_lt
      exact hlt

/-- The key of a message that is appended goes into the index. -/
theorem toFinset_keys_concat (capacity : Nat) (entries : List Message) (message : Message) :
    Insert.insert message.key (mk capacity entries).keys.toFinset =
      (mk capacity (entries ++ [message])).keys.toFinset := by
  ext key
  simp only [keys, List.map_append, List.map_singleton, Finset.mem_insert, List.mem_toFinset,
    List.mem_append, List.mem_singleton]
  exact or_comm

/-- **Queue and index stay in step** when a message is put in. At most one message is evicted for it,
so the second test is the last. -/
theorem insert?_indexed (hnodup : cache.keys.Nodup) (hsize : cache.size ≤ cache.capacity)
    {tests : Nat} (htests : 2 ≤ tests) (message : Message) :
    cache.indexed.insert? tests message =
      some ((cache.insert message).1.indexed, (cache.insert message).2) := by
  by_cases hcapacity : cache.capacity = 0
  · rw [insert_of_capacity_eq_zero hcapacity]
    exact if_pos hcapacity
  have hpos := Nat.pos_of_ne_zero hcapacity
  rw [IndexedCache.insert?, if_neg (show ¬ cache.indexed.capacity = 0 from hcapacity),
    contains_indexed]
  cases hcontains : cache.contains message.key with
  | true => rw [if_pos rfl, insert_of_contains hcontains]
  | false =>
    rw [if_neg Bool.false_ne_true, insert_of_fresh hpos hcontains]
    have hsurplus : cache.entries.length + 1 - cache.capacity < tests := by
      rw [size] at hsize
      omega
    have hroomy : cache.indexed.makeRoom? tests = _ := makeRoom?_indexed hpos hnodup hsurplus
    rw [hroomy]
    exact congrArg
      (fun index => some (IndexedCache.mk cache.capacity
        (cache.entries.drop (cache.size + 1 - cache.capacity) ++ [message]) index, true))
      (toFinset_keys_concat cache.capacity _ message)

theorem insertAll?_indexed (hnodup : cache.keys.Nodup) (hsize : cache.size ≤ cache.capacity)
    {tests : Nat} (htests : 2 ≤ tests) (messages : List Message) :
    cache.indexed.insertAll? tests messages =
      some ((cache.insertAll messages).1.indexed, (cache.insertAll messages).2) := by
  induction messages generalizing cache with
  | nil => rfl
  | cons message messages ih =>
    have hsize' : (cache.insert message).1.size ≤ (cache.insert message).1.capacity := by
      rw [capacity_insert]
      exact size_insert_le hsize message
    have hrest := ih (nodup_keys_insert hnodup message) hsize'
    simp only [IndexedCache.insertAll?, insert?_indexed hnodup hsize htests, Option.bind_eq_bind,
      Option.bind_some, hrest]
    rfl

end Cache

namespace IndexedCache

/-- **A cache is a first-in-first-out queue of messages with distinct keys.** Whatever is put into a
cache with an index, one message after the other, each time it comes to an end, with the second test
for room at the latest. At any point the cache holds the last of the messages that it took, as many of
them as it has room for; their keys are distinct, and just these are in the index. The next message is
taken exactly when there is room for any and its key is not there, so one that was evicted may come
back; a message that is not taken changes nothing. The cache without an index holds and takes the
same. -/
theorem refines_fifo (capacity : Nat) (messages : List Message) :
    ∃ cache taken,
      (∀ tests, 2 ≤ tests → (empty capacity).insertAll? tests messages = some (cache, taken)) ∧
      (Cache.empty capacity).insertAll messages = (⟨capacity, cache.snapshot⟩, taken) ∧
      cache.snapshot <:+ taken ∧ cache.snapshot.length = min capacity taken.length ∧
      cache.keys = cache.snapshot.map Message.key ∧ cache.keys.Nodup ∧
      (∀ key, cache.contains key = true ↔ key ∈ cache.keys) ∧
      ∀ message, ∃ next accepted,
        (∀ tests, 2 ≤ tests → cache.insert? tests message = some (next, accepted)) ∧
        (Cache.mk capacity cache.snapshot).insert message =
          (⟨capacity, next.snapshot⟩, accepted) ∧
        (accepted = true ↔ 0 < capacity ∧ message.key ∉ cache.keys) ∧
        (accepted = false → next = cache) := by
  have hempty := Cache.holdsLast_empty capacity
  have hrun : ∀ tests, 2 ≤ tests → (empty capacity).insertAll? tests messages = _ :=
    fun tests htests => Cache.insertAll?_indexed hempty.nodup (Nat.zero_le _) htests messages
  have hcapacity := Cache.capacity_insertAll (.empty capacity) messages
  have hlast := hempty.insertAll messages
  rw [List.nil_append] at hlast
  generalize (Cache.empty capacity).insertAll messages = result at hrun hcapacity hlast
  obtain ⟨⟨room, entries⟩, taken⟩ := result
  obtain rfl : room = capacity := hcapacity
  have hroom : (Cache.mk room entries).size ≤ room := by
    rw [hlast.size_eq]
    exact Nat.min_le_left _ _
  refine ⟨_, taken, hrun, rfl, hlast.suffix, hlast.size_eq, rfl, hlast.nodup, fun key => ?_,
    fun message => ?_⟩
  · rw [Cache.contains_indexed]
    exact Cache.contains_iff
  · refine ⟨_, _, fun tests htests => Cache.insert?_indexed hlast.nodup hroom htests message, ?_,
      Cache.snd_insert_eq_true_iff, fun hrefused => ?_⟩
    · have hsame := Cache.capacity_insert ⟨room, entries⟩ message
      exact Prod.ext (congrArg (Cache.mk · _) hsame) rfl
    · rw [Cache.insert_of_snd_eq_false hrefused]

end IndexedCache

end RadioGossip
