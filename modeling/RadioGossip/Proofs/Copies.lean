import Mathlib.Data.List.Induction
import RadioGossip.Proofs.MessageRecords
import RadioGossip.Proofs.Paths

/-!
# Copies of a message

On its way through the mesh a message changes in two fields only, its path and its hop budget. Two
messages that agree in all the others are **copies** of each other, and in particular have one key.

What a message has become after hops through some stations, one after the other, is its copy
**along** that route. The copy says where it has been: its path has the route at its end, and its
budget is less by the length of the route, until it is spent. A route of 255 stations still leaves a
path that can be written.
-/

namespace RadioGossip

namespace Message

/-! ## One hop -/

theorem toNat_ttl_hop (message : Message) (callsign : String) :
    (message.hop callsign).ttl.toNat = message.ttl.toNat - 1 := by
  simp only [hop]
  split
  · next h => simp [h]
  · next h =>
    have hpos : message.ttl.toNat ≠ 0 := fun hzero => h (UInt8.toNat_inj.mp hzero)
    have hle : 1 ≤ message.ttl := UInt8.le_iff_toNat_le.mpr (Nat.one_le_iff_ne_zero.mpr hpos)
    rw [UInt8.toNat_sub_of_le _ _ hle]
    rfl

/-! ## Copies -/

/-- The two agree in everything that hops leave alone. -/
def isCopyOf (copy message : Message) : Bool :=
  { copy with path := message.path, ttl := message.ttl } = message

theorem isCopyOf_iff {copy message : Message} :
    copy.isCopyOf message = true ↔ copy.version = message.version ∧
      copy.sequence = message.sequence ∧ copy.flags = message.flags ∧
      copy.source = message.source ∧ copy.kind = message.kind ∧ copy.payload = message.payload := by
  obtain ⟨version, sequence, ttl, flags, source, path, kind, payload⟩ := message
  simp [isCopyOf]

theorem isCopyOf_refl (message : Message) : message.isCopyOf message = true := by
  simp [isCopyOf]

theorem isCopyOf_hop {copy message : Message} (h : copy.isCopyOf message = true)
    (callsign : String) : (copy.hop callsign).isCopyOf message = true := by
  rw [isCopyOf_iff] at h ⊢
  exact h

theorem key_of_isCopyOf {copy message : Message} (h : copy.isCopyOf message = true) :
    copy.key = message.key := by
  obtain ⟨-, hsequence, -, hsource, -⟩ := isCopyOf_iff.mp h
  rw [key, key, hsequence, hsource]

theorem isNoCache_of_isCopyOf {copy message : Message} (h : copy.isCopyOf message = true) :
    copy.isNoCache = message.isNoCache := by
  obtain ⟨-, -, hflags, -⟩ := isCopyOf_iff.mp h
  rw [isNoCache, isNoCache, hflags]

theorem isAckRequested_of_isCopyOf {copy message : Message} (h : copy.isCopyOf message = true) :
    copy.isAckRequested = message.isAckRequested := by
  obtain ⟨-, -, hflags, -⟩ := isCopyOf_iff.mp h
  rw [isAckRequested, isAckRequested, hflags]

theorem isCanonical_of_isCopyOf {copy message : Message} (h : copy.isCopyOf message = true)
    (hc : message.IsCanonical) : copy.IsCanonical := by
  obtain ⟨-, -, -, hsource, hkind, -⟩ := isCopyOf_iff.mp h
  exact ⟨hsource ▸ hc.1, hkind ▸ hc.2⟩

/-! ## Routes -/

/-- The message after hops through stations with these callsigns, the first of them first. -/
def along (message : Message) (route : List String) : Message := route.foldl hop message

theorem along_concat (message : Message) (route : List String) (callsign : String) :
    message.along (route ++ [callsign]) = (message.along route).hop callsign := by
  simp [along]

theorem isCopyOf_along (message : Message) (route : List String) :
    (message.along route).isCopyOf message = true := by
  induction route using List.reverseRecOn with
  | nil => exact isCopyOf_refl message
  | append_singleton route callsign ih =>
    rw [along_concat]
    exact isCopyOf_hop ih callsign

theorem toNat_ttl_along (message : Message) (route : List String) :
    (message.along route).ttl.toNat = message.ttl.toNat - route.length := by
  induction route using List.reverseRecOn with
  | nil => rfl
  | append_singleton route callsign ih =>
    rw [along_concat, toNat_ttl_hop, ih, List.length_append, List.length_singleton]
    omega

/-- **The path tells the route.** -/
theorem hops_along (message : Message) {route : List String}
    (h : ∀ callsign ∈ route, Path.IsCallsign callsign) :
    (message.along route).path.hops = message.path.hops ++ route := by
  induction route using List.reverseRecOn with
  | nil => simp [along]
  | append_singleton route callsign ih =>
    rw [along_concat, hop, Path.hops_append (h callsign (by simp)),
      ih fun other hother => h other (by simp [hother]), List.append_assoc]

theorem length_path_along_le (message : Message) {route : List String}
    (h : ∀ callsign ∈ route, callsign.utf8ByteSize ≤ maxFieldLength) :
    (message.along route).path.length ≤ message.path.length + 256 * route.length := by
  induction route using List.reverseRecOn with
  | nil => simp [along]
  | append_singleton route callsign ih =>
    have hcallsign := h callsign (by simp)
    have hroute := ih fun other hother => h other (by simp [hother])
    have happend := Path.length_append_le (message.along route).path callsign
    simp only [maxFieldLength] at hcallsign
    rw [along_concat, hop, List.length_append, List.length_singleton]
    simp only
    omega

/-- The copy of a message without a path can be written after any 255 hops. -/
theorem fits_along {message : Message} {route : List String} (hpath : message.path = .empty)
    (hpayload : message.payload.length ≤ maxPayloadLength)
    (h : ∀ callsign ∈ route, callsign.utf8ByteSize ≤ maxFieldLength)
    (hroute : route.length ≤ 255) : (message.along route).Fits := by
  obtain ⟨-, -, -, -, -, hcopy⟩ := isCopyOf_iff.mp (message.isCopyOf_along route)
  refine ⟨?_, by rwa [hcopy]⟩
  have hlength := message.length_path_along_le h
  have hempty : message.path.length = 0 := by rw [hpath]; rfl
  simp only [Path.maxLength]
  omega

end Message

end RadioGossip
