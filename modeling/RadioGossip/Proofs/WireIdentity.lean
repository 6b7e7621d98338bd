import RadioGossip.Proofs.AcceptanceWindow
import RadioGossip.Proofs.MessageRecords

/-!
# Keys on the wire

A station tells messages apart by their keys, and other stations by what is written of these. The two
disagree where a source spells a named tag as an unnamed one. Such a source is written like its
canonical form and is another contact nevertheless, so a station may hold two messages that are the
**same on the wire**, and it may take one of its own messages for news when this comes back.

It cannot come to this over the wire, for what is read is canonical: it takes a message of the
station's own, and the station then recognises it only if it holds the canonical key as well. Where
all sources are canonical, keys and wire agree.
-/

namespace RadioGossip

namespace Contact

/-- Contacts are written alike exactly when their canonical forms are the same. -/
theorem encode_eq_iff {contact other : Contact} :
    contact.encode = other.encode ↔ contact.canonical = other.canonical := by
  constructor
  · intro h
    have hback := contact.decode_encode
    rw [h, other.decode_encode] at hback
    exact (Except.ok.inj hback).symm
  · intro h
    rw [← encode_canonical, h, encode_canonical]

end Contact

namespace Key

theorem canonical_eq_self_iff {key : Key} : key.canonical = key ↔ key.source.IsCanonical := by
  obtain ⟨sequence, source⟩ := key
  simp [canonical, Contact.canonical_eq_self_iff]

end Key

namespace Message

/-- The messages have one sequence number, and their sources are written alike. -/
def SameOnWire (message other : Message) : Prop :=
  message.sequence = other.sequence ∧ message.source.encode = other.source.encode

instance (message other : Message) : Decidable (message.SameOnWire other) :=
  inferInstanceAs (Decidable (_ ∧ _))

theorem sameOnWire_iff {message other : Message} :
    message.SameOnWire other ↔ message.key.canonical = other.key.canonical := by
  rw [SameOnWire, Contact.encode_eq_iff, key, key, Key.canonical, Key.canonical, Key.mk.injEq]

/-- What was read and is the same on the wire has the canonical key. -/
theorem SameOnWire.key_eq {raw : Bytes} {received entry : Message}
    (h : received.SameOnWire entry) (hraw : Message.decode raw = .ok received) :
    received.key = entry.key.canonical := by
  obtain ⟨hcanonical, -⟩ := Message.decode_eq_ok.mp hraw
  rw [← sameOnWire_iff.mp h]
  exact (Key.canonical_eq_self_iff.mpr hcanonical.1).symm

end Message

namespace Engine

variable {engine : Engine} {requests : List Request}

/-- A station with room in its cache refuses the keys that it holds and no others. -/
theorem refuses_iff (hcapacity : 1 ≤ engine.cache.capacity) {key : Key} :
    engine.Refuses key ↔ engine.cache.contains key = true := by
  refine ⟨fun hrefuses => ?_, refuses_of_contains⟩
  cases hcontains : engine.cache.contains key with
  | true => rfl
  | false =>
    -- A message that is only added puts the station to the test.
    have hkept : (Message.make key.source key.sequence .cq []).isNoCache = false := by
      show (0 &&& Message.noCacheFlag != 0) = false
      decide
    have hadded := (hrefuses.addToCache (Message.make key.source key.sequence .cq []) rfl).2
    have hfresh : engine.cache.contains
        ((Message.make key.source key.sequence .cq []).heldAt engine.callsign).key = false := by
      rwa [Message.key_heldAt]
    rw [addToCache_of_kept hkept, snd_insert] at hadded
    rw [← Message.heldAt, Cache.insert_of_fresh hcapacity hfresh] at hadded
    cases hadded

/-- A cached message whose source is not canonical was given to the station as its own. -/
theorem isCanonical_or_given {self : Contact} {capacity : Nat} {readOnly : Bool} {entry : Message}
    (hentry : entry ∈ ((Engine.new self capacity readOnly).afterAll requests).cache.entries) :
    entry.source.IsCanonical ∨ ∃ message : Message, message.key = entry.key ∧
      (.spread message ∈ requests ∨ .add message ∈ requests) := by
  refine forall_mem_entries_afterAll (fun entry => entry.source.IsCanonical ∨
    ∃ message : Message, message.key = entry.key ∧
      (.spread message ∈ requests ∨ .add message ∈ requests))
    (fun _ hnone => absurd hnone List.not_mem_nil) ?_ entry hentry
  intro request hrequest message hmessage
  rw [Message.key_heldAt, Message.source_heldAt]
  cases request with
  | spread given =>
    obtain rfl := Option.some.inj hmessage
    exact .inr ⟨given, rfl, .inl hrequest⟩
  | add given =>
    obtain rfl := Option.some.inj hmessage
    exact .inr ⟨given, rfl, .inr hrequest⟩
  | handle raw =>
    obtain ⟨hcanonical, -⟩ := Message.decode_eq_ok.mp (Request.mem_message?_handle.mp hmessage)
    exact .inl hcanonical.1

/-- Sources stay canonical where all that comes is. -/
theorem isCanonical_of_requests (hcached : ∀ entry ∈ engine.cache.entries, entry.source.IsCanonical)
    (hrequests : ∀ request ∈ requests, ∀ message ∈ request.message?, message.source.IsCanonical) :
    ∀ entry ∈ (engine.afterAll requests).cache.entries, entry.source.IsCanonical := by
  refine forall_mem_entries_afterAll (·.source.IsCanonical) hcached ?_
  intro request hrequest message hmessage
  rw [Message.source_heldAt]
  exact hrequests request hrequest message hmessage

/-- Of two cached messages that are the same on the wire at most one has a canonical source. -/
theorem pairwise_not_sameOnWire (h : engine.cache.keys.Nodup) :
    engine.cache.entries.Pairwise fun entry other => entry.SameOnWire other →
      ¬ (entry.source.IsCanonical ∧ other.source.IsCanonical) := by
  refine (List.pairwise_map.mp h).imp ?_
  rintro entry other hkeys hsame ⟨hcanonical, hcanonical'⟩
  have hkey := Message.sameOnWire_iff.mp hsame
  rw [Key.canonical_eq_self_iff.mpr hcanonical, Key.canonical_eq_self_iff.mpr hcanonical'] at hkey
  exact hkeys hkey

/-- **What a station makes of keys on the wire.** Whatever the station was asked to do, of any two
messages in its cache that are the same on the wire at most one has a canonical source, and a source
that is not canonical was given to it as its own. When a cached message comes back, it is recognised
exactly if the cache holds its canonical key. So if all sources that came were canonical, no two
messages in the cache are the same on the wire, and each of them is recognised when it comes back. -/
theorem recognises_canonical (self : Contact) (capacity : Nat) (readOnly : Bool)
    (requests : List Request) :
    let engine := (Engine.new self capacity readOnly).afterAll requests
    (engine.cache.entries.Pairwise fun entry other => entry.SameOnWire other →
      ¬ (entry.source.IsCanonical ∧ other.source.IsCanonical)) ∧
    (∀ entry ∈ engine.cache.entries, entry.source.IsCanonical ∨
      ∃ message : Message, message.key = entry.key ∧
        (.spread message ∈ requests ∨ .add message ∈ requests)) ∧
    (∀ entry ∈ engine.cache.entries, ∀ raw received, Message.decode raw = .ok received →
      received.SameOnWire entry →
      (engine.Refuses received.key ↔ entry.key.canonical ∈ engine.cache.keys)) ∧
    ((∀ request ∈ requests, ∀ message ∈ request.message?, message.source.IsCanonical) →
      (engine.cache.entries.Pairwise fun entry other => ¬ entry.SameOnWire other) ∧
      ∀ entry ∈ engine.cache.entries, ∀ raw received, Message.decode raw = .ok received →
        received.SameOnWire entry → engine.Refuses received.key) := by
  intro engine
  have hsound : engine.cache.IsSound := isSound_afterAll (Cache.isSound_empty capacity) requests
  have hapart := pairwise_not_sameOnWire hsound.nodup
  have hrecognised : ∀ entry ∈ engine.cache.entries, ∀ raw received,
      Message.decode raw = .ok received → received.SameOnWire entry →
      (engine.Refuses received.key ↔ entry.key.canonical ∈ engine.cache.keys) := by
    intro entry hentry raw received hraw hsame
    have hcapacity : 1 ≤ engine.cache.capacity :=
      Nat.le_trans (List.length_pos_of_mem hentry) hsound.size_le
    rw [refuses_iff hcapacity, hsame.key_eq hraw, Cache.contains_iff]
  refine ⟨hapart, fun entry hentry => isCanonical_or_given hentry, hrecognised, fun hrequests => ?_⟩
  have hcanonical : ∀ entry ∈ engine.cache.entries, entry.source.IsCanonical :=
    isCanonical_of_requests (fun _ hnone => absurd hnone List.not_mem_nil) hrequests
  refine ⟨hapart.imp_of_mem fun hentry hother himp hsame =>
    himp hsame ⟨hcanonical _ hentry, hcanonical _ hother⟩, ?_⟩
  intro entry hentry raw received hraw hsame
  refine (hrecognised entry hentry raw received hraw hsame).mpr ?_
  rw [Key.canonical_eq_self_iff.mpr (hcanonical entry hentry)]
  exact List.mem_map_of_mem hentry

/-- A message whose source spells the kind of a mobile user as an unnamed one was added to the cache.
It comes back over the wire and is not recognised: the cache then holds two messages that are the
same on the wire, and only from now on it recognises them. -/
theorem recognises_canonical_of_unnamed :
    let self : Contact := ⟨.fixed, [76], [], by decide, by decide⟩
    let message := Message.make ⟨.other 0, [67], [], by decide, by decide⟩ 1 .cq []
    let engine := (Engine.new self 4 false).afterAll [.add message]
    let engine' := (Engine.new self 4 false).afterAll [.add message, .handle message.record]
    Message.decode message.record = .ok message.canonical ∧
      ¬ engine.Refuses message.canonical.key ∧ engine'.Refuses message.canonical.key ∧
      ¬ engine'.cache.entries.Pairwise fun entry other => ¬ entry.SameOnWire other := by
  intro self message engine engine'
  have hraw : Message.decode message.record = .ok message.canonical :=
    Message.decode_record ⟨by decide, by decide⟩
  obtain ⟨-, -, hrecognised, -⟩ := recognises_canonical self 4 false [.add message]
  obtain ⟨-, -, hrecognised', -⟩ :=
    recognises_canonical self 4 false [.add message, .handle message.record]
  have hentry : message.heldAt self.callsignText ∈ engine.cache.entries := by decide +kernel
  have hentry' : message.heldAt self.callsignText ∈ engine'.cache.entries := by decide +kernel
  have hsame : message.canonical.SameOnWire (message.heldAt self.callsignText) := by decide +kernel
  refine ⟨hraw, ?_, ?_, by decide +kernel⟩
  · rw [hrecognised _ hentry _ _ hraw hsame]
    decide +kernel
  · rw [hrecognised' _ hentry' _ _ hraw hsame]
    decide +kernel

end Engine

end RadioGossip
