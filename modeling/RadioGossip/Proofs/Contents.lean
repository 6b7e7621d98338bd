import RadioGossip.Proofs.Paths
import RadioGossip.Proofs.Requests
import RadioGossip.Proofs.Spreading

/-!
# What caches hold and what decisions say

The callsign of a station may stand in paths. Then whatever the station is asked to do, everything in
its cache is to be kept and names the station in its path, and no key stands there twice: the cache
is the station's **own**.

Of every request the station makes at most one delivery, one relay and one reply, in this order. It
sends something only about a message that it delivers, and that it has just taken into its cache. A
relay says the same message again, which has hops left to go and was here last.
-/

namespace RadioGossip

namespace Path

variable {path : Path} {callsign : String}

/-- Who appended a callsign last is the last hop. -/
theorem getLast?_hops_append (h : IsCallsign callsign) :
    (path.append callsign).hops.getLast? = some callsign := by
  rw [hops_append h, List.getLast?_concat]

theorem contains_append (h : IsCallsign callsign) :
    (path.append callsign).contains callsign = true := by
  rw [contains_iff_mem_hops, hops_append h]
  exact List.mem_append_right _ List.mem_cons_self

end Path

/-- A station that holds a message is named by its path, whether this was the first visit or not. -/
theorem Message.contains_path_heldAt {message : Message} {callsign : String}
    (h : Path.IsCallsign callsign) : (message.heldAt callsign).path.contains callsign = true := by
  rw [heldAt]
  split
  · next hloop => exact hloop
  · exact Path.contains_append h

/-! ## Caches -/

namespace Cache

/-- What the cache of a station with this callsign holds. -/
structure IsOwn (cache : Cache) (callsign : String) : Prop where
  kept : ∀ entry ∈ cache.entries, entry.isNoCache = false
  named : ∀ entry ∈ cache.entries, entry.path.contains callsign = true
  nodup : cache.keys.Nodup

end Cache

namespace Engine

variable {engine : Engine} {message : Message} {request : Request}

theorem isOwn_after (h : engine.cache.IsSound) (hcallsign : Path.IsCallsign engine.callsign)
    (hown : engine.cache.IsOwn engine.callsign) (request : Request) :
    (engine.after request).cache.IsOwn engine.callsign where
  kept := (isSound_after h request).kept
  named entry hentry := by
    rcases mem_entries_after hentry with hold | ⟨message, -, rfl⟩
    · exact hown.named entry hold
    · exact Message.contains_path_heldAt hcallsign
  nodup := (isSound_after h request).nodup

/-- Whatever it is asked to do, a station keeps its cache its own. -/
theorem isOwn_afterAll (h : engine.cache.IsSound) (hcallsign : Path.IsCallsign engine.callsign)
    (hown : engine.cache.IsOwn engine.callsign) (requests : List Request) :
    (engine.afterAll requests).cache.IsOwn engine.callsign := by
  induction requests generalizing engine with
  | nil => exact hown
  | cons request requests ih =>
    have hsame := engine.callsign_after request
    have hstep := isOwn_after h hcallsign hown request
    rw [← hsame] at hcallsign hstep ⊢
    exact ih (isSound_after h request) hcallsign hstep

/-! ## Events -/

/-- What comes of a request. A request that is refused comes to nothing, and so does one that only
adds to the cache. -/
def events (engine : Engine) : Request → List Event
  | .spread message => (engine.spread message).2.toOption.getD []
  | .handle raw => (engine.handle raw).2.toOption.getD []
  | .add _ => []

/-- The bytes say the message again, as it comes back from the wire: it is to be kept, it has hops
left to go, and the station with this callsign was its last hop. -/
structure Repeats (callsign : String) (message : Message) (wire : Bytes) : Prop where
  decode : Message.decode wire = .ok message.canonical
  kept : message.canonical.isNoCache = false
  budget : 1 ≤ message.canonical.ttl.toNat
  last : message.canonical.path.hops.getLast? = some callsign

/-- A request makes the station announce a message: it delivers the message, relays it, if there is a
relay, and replies, if there is a reply. It sends something only if it did not hold the message
before, and then the message is the last in its cache, if this has room for any. -/
structure Announces (engine : Engine) (request : Request) (message : Message)
    (relay reply : Option Bytes) : Prop where
  events : engine.events request = Event.about message relay reply
  cached : relay ≠ none ∨ reply ≠ none →
    engine.cache.contains message.key = false ∧ (1 ≤ engine.cache.capacity →
      ∃ older, older <:+ engine.cache.entries ∧
        (engine.after request).cache.entries = older ++ [message])
  relayed : ∀ wire ∈ relay, Repeats engine.callsign message wire

/-- A message is repeated as it is after its hop. -/
theorem repeats_of_relayOf (hcallsign : Path.IsCallsign engine.callsign)
    (hkept : message.isNoCache = false) {wire : Bytes}
    (h : relayOf (message.hop engine.callsign) = some wire) :
    Repeats engine.callsign (message.hop engine.callsign) wire := by
  obtain ⟨httl, hwire⟩ := relayOf_eq_some_iff.mp h
  obtain ⟨hfits, rfl⟩ := Message.encode_eq_ok_iff.mp hwire
  refine ⟨Message.decode_record hfits, hkept, ?_, Path.getLast?_hops_append hcallsign⟩
  exact Nat.one_le_iff_ne_zero.mpr fun hzero => httl (UInt8.toNat_inj.mp hzero)

/-- What is decided about a message comes to nothing, or it is an announcement. -/
theorem announces_of_decides (hcallsign : Path.IsCallsign engine.callsign) {reply : Option Bytes}
    {events : List Event}
    (hdecides : engine.Decides message reply (engine.after request).cache events)
    (hevents : engine.events request = events) :
    engine.events request = [] ∨
      ∃ message relay reply, engine.Announces request message relay reply := by
  generalize hcache : (engine.after request).cache = cache at hdecides
  cases hdecides with
  | drops => exact .inl hevents
  | delivers =>
    refine .inr ⟨message, none, none, hevents, fun h => ?_, nofun⟩
    simp at h
  | accepts hnews =>
    refine .inr ⟨_, _, _, hevents, fun _ => ⟨hnews.fresh, fun hcapacity => ?_⟩,
      fun wire hwire => repeats_of_relayOf hcallsign hnews.kept hwire⟩
    have hfresh : engine.cache.contains (message.hop engine.callsign).key = false := hnews.fresh
    rw [hcache, Cache.insert_of_fresh hcapacity hfresh]
    exact ⟨_, List.drop_suffix _ _, rfl⟩

/-- **A request comes to nothing, or it is an announcement**, whichever of the three ways it came. -/
theorem events_eq_nil_or_announces (hcallsign : Path.IsCallsign engine.callsign)
    (request : Request) :
    engine.events request = [] ∨
      ∃ message relay reply, engine.Announces request message relay reply := by
  cases request with
  | spread message =>
    rcases engine.refuses_or_decides_spread message with ⟨cause, h⟩ | ⟨events, hevents, hdecides⟩
    · exact .inl (by simp [Engine.events, h, Except.toOption])
    · exact announces_of_decides hcallsign hdecides (by rw [Engine.events, hevents]; rfl)
  | handle raw =>
    cases hraw : Message.decode raw with
    | error cause => exact .inl (by simp [Engine.events, handle_of_malformed hraw, Except.toOption])
    | ok message =>
      obtain ⟨events, hevents, hdecides⟩ := engine.decides_handle hraw
      exact announces_of_decides hcallsign hdecides (by rw [Engine.events, hevents]; rfl)
  | add message => exact .inl rfl

/-! ## All requests -/

/-- **What a station holds and says.** The callsign of a station may stand in paths. Whatever the
station was asked to do, its cache is its own, and whatever it is asked to do next comes to nothing
or is an announcement. -/
theorem holds_and_says {self : Contact} (hcallsign : Path.IsCallsign self.callsignText)
    (capacity : Nat) (readOnly : Bool) (requests : List Request) :
    let engine := (Engine.new self capacity readOnly).afterAll requests
    engine.callsign = self.callsignText ∧ engine.cache.IsOwn self.callsignText ∧
      ∀ request, engine.events request = [] ∨
        ∃ message relay reply, engine.Announces request message relay reply := by
  intro engine
  have hsame : engine.callsign = self.callsignText := callsign_afterAll _ requests
  have hstart : (Engine.new self capacity readOnly).cache.IsOwn self.callsignText :=
    ⟨nofun, nofun, List.nodup_nil⟩
  have hname : Path.IsCallsign (Engine.new self capacity readOnly).callsign := hcallsign
  have hown : engine.cache.IsOwn self.callsignText :=
    isOwn_afterAll (Cache.isSound_empty capacity) hname hstart requests
  refine ⟨hsame, hown, fun request => ?_⟩
  rw [← hsame] at hcallsign
  exact events_eq_nil_or_announces hcallsign request

/-- A station with room for one message. It spread one, and then a neighbour sends it another and
wants to hear that it arrived: this pushes out the first, and it is relayed and answered. -/
theorem holds_and_says_of_one :
    let self : Contact := ⟨.user, [65], [], by decide, by decide⟩
    let source : Contact := ⟨.other 0, [66], [], by decide, by decide⟩
    let message (sequence : UInt64) : Message :=
      { Message.make source sequence .cq [] with ttl := 2, flags := Message.ackFlag }
    let engine := (Engine.new self 1 false).afterAll [.spread (message 1)]
    let request := Request.handle (message 2).record
    Path.IsCallsign self.callsignText ∧ engine.cache.IsOwn self.callsignText ∧
      (engine.events request).length = 3 ∧
      ∃ message relay reply, engine.Announces request message relay reply := by
  intro self source message engine request
  have hcallsign : Path.IsCallsign self.callsignText := ⟨by decide +kernel, by decide +kernel⟩
  obtain ⟨-, hown, hnext⟩ := holds_and_says hcallsign 1 false [.spread (message 1)]
  have hlength : (engine.events request).length = 3 := by decide +kernel
  refine ⟨hcallsign, hown, hlength, (hnext request).resolve_left fun hnil => ?_⟩
  have hthree : ([] : List Event).length = 3 := hnil ▸ hlength
  cases hthree

end Engine

end RadioGossip
