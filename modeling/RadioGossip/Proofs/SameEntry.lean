import RadioGossip.Proofs.Accounts
import RadioGossip.Proofs.Copies

/-!
# One entry whichever way it comes

News reaches the cache of a station in three ways: it starts here, it comes from a neighbour, or it is
learned some other way. Each of them has its own checks in its own order, and they all leave the same
**entry** in the same place: the message after its hop, behind what it does not push out.

The ways differ where the hop makes the path too long for the wire. Then a message that starts here
and has hops left to go is refused. One that comes from a neighbour is kept and delivered nevertheless,
and just not relayed.
-/

namespace RadioGossip

namespace Message

variable {message : Message} {callsign : String}

/-- What a hop makes of a message, field by field. -/
theorem hop_eq (message : Message) (callsign : String) :
    message.hop callsign =
      { message with
        path := message.path.append callsign
        ttl := UInt8.ofNat (message.ttl.toNat - 1) } := by
  have httl : (message.hop callsign).ttl = UInt8.ofNat (message.ttl.toNat - 1) := by
    rw [← toNat_ttl_hop message callsign, UInt8.ofNat_toNat]
  rw [← httl, hop]

theorem ttl_hop_ne_zero_iff : (message.hop callsign).ttl ≠ 0 ↔ 2 ≤ message.ttl.toNat := by
  rw [Ne, ← UInt8.toNat_inj, toNat_ttl_hop, UInt8.toNat_zero]
  omega

/-- A hop makes a message too long for the wire by its path alone. -/
theorem not_fits_hop_iff (hfits : message.Fits) :
    ¬ (message.hop callsign).Fits ↔ Path.maxLength < (message.path.append callsign).length := by
  rw [fits_iff, Decidable.not_and_iff_not_or_not, Nat.not_le, Nat.not_le]
  exact or_iff_left (Nat.not_lt.mpr hfits.payload)

end Message

namespace Engine

variable {engine : Engine} {message : Message} {raw : Bytes}

/-- The cache with news behind all entries that it does not push out. -/
def cacheWith (engine : Engine) (message : Message) : Cache :=
  { engine.cache with
    entries := engine.cache.entries.drop (engine.cache.size + 1 - engine.cache.capacity) ++
      [message.hop engine.callsign] }

theorem cache_insert_hop (hcapacity : 1 ≤ engine.cache.capacity) (hnews : engine.IsNews message) :
    engine.cache.insert (message.hop engine.callsign) = (engine.cacheWith message, true) :=
  Cache.insert_of_fresh hcapacity hnews.fresh

theorem cache_handle_of_news (hcapacity : 1 ≤ engine.cache.capacity)
    (hraw : Message.decode raw = .ok message) (hnews : engine.IsNews message) :
    (engine.handle raw).1.cache = engine.cacheWith message := by
  rw [(handle_of_fresh hraw hnews.no_loop hnews.kept hnews.fresh).1,
    cache_insert_hop hcapacity hnews]

theorem addToCache_of_news (hcapacity : 1 ≤ engine.cache.capacity)
    (hnews : engine.IsNews message) :
    (engine.addToCache message).1.cache = engine.cacheWith message ∧
      (engine.addToCache message).2 = true := by
  have hloop : ¬ message.path.contains engine.callsign = true := by
    rw [hnews.no_loop]
    exact Bool.false_ne_true
  rw [addToCache_of_kept hnews.kept, if_neg hloop, cache_insert, snd_insert,
    cache_insert_hop hcapacity hnews]
  exact ⟨rfl, rfl⟩

/-- What does not fit the wire is not relayed. -/
theorem relayOf_eq_none_of_not_fits {copy : Message} (h : ¬ copy.Fits) : relayOf copy = none := by
  rw [Option.eq_none_iff_forall_ne_some]
  intro frame hframe
  obtain ⟨-, hencode⟩ := relayOf_eq_some_iff.mp hframe
  exact h (Message.encode_eq_ok_iff.mp hencode).1

/-- News that starts here is refused just if it should be relayed and cannot be written. -/
theorem spread_of_news_cases (hcapacity : 1 ≤ engine.cache.capacity)
    (hwrite : engine.readOnly = false) (hnews : engine.IsNews message) :
    ((message.hop engine.callsign).ttl ≠ 0 ∧ ¬ (message.hop engine.callsign).Fits ∧
        ∃ cause, (engine.spread message).2 = .error cause) ∨
      (((message.hop engine.callsign).ttl ≠ 0 → (message.hop engine.callsign).Fits) ∧
        (engine.spread message).1.cache = engine.cacheWith message ∧
        ∃ events, (engine.spread message).2 = .ok events) := by
  by_cases hwire : (message.hop engine.callsign).ttl ≠ 0 → (message.hop engine.callsign).Fits
  · refine .inr ⟨hwire, ?_, ?_⟩
    · rw [spread_of_news hcapacity hwrite hnews hwire]
      exact congrArg Prod.fst (cache_insert_hop hcapacity hnews)
    · rw [spread_of_news hcapacity hwrite hnews hwire]
      exact ⟨_, rfl⟩
  · obtain ⟨httl, hfits⟩ := Classical.not_imp.mp hwire
    obtain ⟨field, length, max, hcause⟩ := Message.encode_eq_tooLong_iff.mpr hfits
    refine .inl ⟨httl, hfits, ?_⟩
    rw [spread_of_unwritable hwrite hnews.kept hnews.fresh hnews.no_loop httl hcause]
    exact ⟨_, rfl⟩

/-- **One entry whichever way it comes.** A message with canonical tags that can be written, is to be
kept, is not in the cache and has not been here comes to an engine with room in its cache. Whether it
comes from a neighbour, is added to the cache, or starts here and is not refused, the cache is the same
afterwards: behind the entries that are not pushed out stands the message with the callsign of the
station at the end of its path and a hop budget that is less by one, unless it was spent. A station
that may spread messages refuses this one exactly if it has two hops or more to go and the longer path
does not fit the wire. From a neighbour it is kept and delivered even so, and not relayed. -/
theorem same_entry {wire : Bytes} (hcapacity : 1 ≤ engine.cache.capacity)
    (hcanonical : message.IsCanonical) (hwire : message.encode = .ok wire)
    (hkept : message.isNoCache = false) (hfresh : engine.cache.contains message.key = false)
    (hloop : message.path.contains engine.callsign = false) :
    let entry : Message :=
      { message with
        path := message.path.append engine.callsign
        ttl := UInt8.ofNat (message.ttl.toNat - 1) }
    let cache : Cache :=
      { engine.cache with
        entries := engine.cache.entries.drop (engine.cache.size + 1 - engine.cache.capacity) ++
          [entry] }
    (engine.handle wire).1.cache = cache ∧
    (engine.addToCache message).1.cache = cache ∧ (engine.addToCache message).2 = true ∧
    (∀ events, (engine.spread message).2 = .ok events →
      (engine.spread message).1.cache = cache) ∧
    (engine.readOnly = false →
      ((∃ cause, (engine.spread message).2 = .error cause) ↔
        2 ≤ message.ttl.toNat ∧ 65535 < entry.path.length)) ∧
    (2 ≤ message.ttl.toNat → 65535 < entry.path.length →
      (engine.handle wire).2 =
        .ok (.deliver entry :: (engine.replyTo message).toList.map .reply)) := by
  intro entry cache
  obtain ⟨hfits, rfl⟩ := Message.encode_eq_ok_iff.mp hwire
  have hraw : Message.decode message.record = .ok message :=
    Message.decode_eq_ok.mpr ⟨hcanonical, _, hwire, List.prefix_rfl⟩
  have hnews : engine.IsNews message := ⟨hkept, hfresh, hloop⟩
  have hentry : message.hop engine.callsign = entry := message.hop_eq engine.callsign
  have hcache : engine.cacheWith message = cache := by
    rw [cacheWith, hentry]
  have hunwritable : ¬ (message.hop engine.callsign).Fits ↔ 65535 < entry.path.length :=
    Message.not_fits_hop_iff hfits
  obtain ⟨hadd, hgrown⟩ := addToCache_of_news hcapacity hnews
  refine ⟨?_, ?_, hgrown, fun events hevents => ?_, fun hwrite => ?_, fun httl hlong => ?_⟩
  · rw [cache_handle_of_news hcapacity hraw hnews, hcache]
  · rw [hadd, hcache]
  · cases hwrite : engine.readOnly with
    | true =>
      rw [spread_of_readOnly hwrite] at hevents
      cases hevents
    | false =>
      rcases spread_of_news_cases hcapacity hwrite hnews with ⟨-, -, cause, hcause⟩ | ⟨-, h, -⟩
      · rw [hcause] at hevents
        cases hevents
      · rw [h, hcache]
  · rw [← @Message.ttl_hop_ne_zero_iff message engine.callsign, ← hunwritable]
    rcases spread_of_news_cases hcapacity hwrite hnews with
      ⟨httl, hlong, hcause⟩ | ⟨hfitting, -, events, hevents⟩
    · exact ⟨fun _ => ⟨httl, hlong⟩, fun _ => hcause⟩
    · rw [hevents]
      exact ⟨nofun, fun h => absurd (hfitting h.1) h.2⟩
  · have hrelay := relayOf_eq_none_of_not_fits (hunwritable.mpr hlong)
    rw [(handle_of_fresh hraw hloop hkept hfresh).2, hrelay, hentry]
    rfl

/-- A cache with room for one entry is full. The message has two hops to go and fits the wire, and the
path with the one letter of the callsign is one byte too long. -/
theorem same_entry_at_the_limit :
    let self : Contact := ⟨.user, [66], [], by decide, by decide⟩
    let source : Contact := ⟨.fixed, [67], [], by decide, by decide⟩
    let older := Message.make source 6 .cq []
    let path : Path := ⟨String.ofList (.replicate 65534 'A')⟩
    let message := { Message.make source 7 .cq [] with ttl := 2, path }
    let entry := { message with ttl := 1, path := path.append "B" }
    let engine := { Engine.new self 1 false with cache := ⟨1, [older]⟩ }
    path.length = 65534 ∧ entry.path.length = 65536 ∧ message.encode = .ok message.record ∧
      (engine.handle message.record).1.cache = ⟨1, [entry]⟩ ∧
      (engine.handle message.record).2 = .ok [.deliver entry] ∧
      (engine.addToCache message).1.cache = ⟨1, [entry]⟩ ∧
      ∃ cause, (engine.spread message).2 = .error cause := by
  intro self source older path message entry engine
  have hlength : path.length = 65534 := Path.length_replicate (by decide) 65534
  have hcallsign : engine.callsign = "B" := by decide +kernel
  have hpath : Path.IsCallsign path.text := by
    refine ⟨fun hempty => ?_, fun hseparator => ?_⟩
    · rw [Path.length, hempty] at hlength
      cases hlength
    · rw [String.toList_ofList, List.mem_replicate] at hseparator
      exact absurd hseparator.2 (by decide)
  have hkept : message.isNoCache = false := by decide
  have hsilent : message.isAckRequested = false := by decide
  -- No more than this needs to be known of the long path.
  clear_value path
  have hlong : entry.path.length = 65536 := by
    rw [Path.length_append hpath.nonempty, hlength]
    rfl
  have hwire : message.encode = .ok message.record :=
    Message.encode_of_fits ⟨Nat.le_of_lt (hlength ▸ by decide), Nat.zero_le _⟩
  have hloop : message.path.contains engine.callsign = false := by
    have hhops : path.hops = [path.text] := @Path.hops_append .empty _ hpath
    rw [hcallsign, Bool.eq_false_iff, Ne, Path.contains_iff_mem_hops, hhops, List.mem_singleton]
    intro hsame
    rw [Path.length, ← hsame] at hlength
    cases hlength
  obtain ⟨hhandle, hadd, -, -, hspread, hdeliver⟩ :=
    @same_entry engine message _ (Nat.le_refl 1) (Message.canonical_eq_self_iff.mp rfl) hwire
      hkept rfl hloop
  rw [hcallsign] at hhandle hadd hspread hdeliver
  have hbeyond : 65535 < entry.path.length := by omega
  have hdelivered : (engine.handle message.record).2 = .ok [.deliver entry] := by
    have hevents := hdeliver (Nat.le_refl 2) hbeyond
    rw [replyTo, hsilent] at hevents
    exact hevents
  exact ⟨hlength, hlong, hwire, hhandle, hdelivered, hadd,
    (hspread rfl).mpr ⟨Nat.le_refl 2, hbeyond⟩⟩

end Engine

end RadioGossip
