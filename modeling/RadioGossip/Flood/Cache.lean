import RadioGossip.Message.Basic

/-!
# The cache of recent messages

A station remembers the messages it saw last, so that it takes each of them once. The cache holds
at most `capacity` messages with pairwise distinct keys, the oldest first, and a new message pushes
out the oldest ones. A cache without capacity holds nothing and takes nothing.
-/

namespace RadioGossip

/-- The recent messages of a station, the oldest first. -/
structure Cache where
  capacity : Nat
  entries : List Message := []
  deriving DecidableEq, Repr

namespace Cache

/-- A cache without entries. -/
def empty (capacity : Nat) : Cache := ⟨capacity, []⟩

/-- The number of entries. -/
def size (cache : Cache) : Nat := cache.entries.length

/-- The keys of the entries, the oldest first. -/
def keys (cache : Cache) : List Key := cache.entries.map Message.key

/-- Whether an entry has this key. -/
def contains (cache : Cache) (key : Key) : Bool := cache.entries.any fun entry => entry.hasKey key

/-- Appends a message and says whether it was taken. It is not if its key is there already or if
nothing can be held; otherwise it pushes out as many of the oldest entries as it must. -/
def insert (cache : Cache) (message : Message) : Cache × Bool :=
  if cache.capacity = 0 || cache.contains message.key then (cache, false)
  else
    let surplus := cache.size + 1 - cache.capacity
    ({ cache with entries := cache.entries.drop surplus ++ [message] }, true)

theorem contains_iff {cache : Cache} {key : Key} :
    cache.contains key = true ↔ key ∈ cache.keys := by
  simp [contains, keys]

end Cache

end RadioGossip
