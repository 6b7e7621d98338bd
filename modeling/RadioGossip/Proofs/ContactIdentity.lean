import Mathlib.Data.List.Forall2
import Mathlib.Data.List.Induction
import RadioGossip.Proofs.WireIdentity

/-!
# Contacts say where they end

A contact can be **obtained** by giving a callsign, by adding address records to it one by one, and by
reading it off the wire. What a byte cannot count is refused on the way, so every length on the wire
is written in full, and so a contact on the wire tells by itself where it ends: no byte string begins
with two contacts, and what stands behind a contact cannot be taken for a part of it.

That makes the bytes the identity of a contact, but for the spelling of its tags. Contacts are written
alike exactly when they read alike, and a contact comes back as it was exactly when none of its tags
is spelled as an unnamed one although it has a name.
-/

namespace RadioGossip

/-! ## Constructors -/

section Refusals

variable {α : Type} {condition : Prop} [Decidable condition] {build : condition → α}
  {cause : WireError}

/-- What is built under a condition and refused otherwise is built exactly under the condition. -/
theorem exists_dite_eq_ok_iff :
    (∃ value, (if h : condition then .ok (build h) else .error cause : Except WireError α) =
      .ok value) ↔ condition := by
  split
  · next h => exact ⟨fun _ => h, fun _ => ⟨_, rfl⟩⟩
  · next h => exact ⟨nofun, fun h' => absurd h' h⟩

theorem exists_dite_eq_error_iff :
    (∃ cause', (if h : condition then .ok (build h) else .error cause : Except WireError α) =
      .error cause') ↔ ¬ condition := by
  split
  · next h => exact ⟨nofun, fun h' => absurd h h'⟩
  · next h => exact ⟨fun _ => h, fun _ => ⟨_, rfl⟩⟩

end Refusals

/-- Octets are refused when a byte cannot count them. -/
theorem IpRecord.exists_make_eq_ok_iff {family : IpFamily} {octets : Bytes} :
    (∃ record, make family octets = .ok record) ↔ octets.length ≤ maxFieldLength :=
  exists_dite_eq_ok_iff

namespace Contact

/-- A callsign is refused when a byte cannot count its bytes. -/
theorem exists_make_eq_ok_iff {kind : StationKind} {callsign : Bytes} :
    (∃ contact, make kind callsign = .ok contact) ↔ callsign.length ≤ maxFieldLength :=
  exists_dite_eq_ok_iff

/-- One more address record is refused by a contact that is full, and by no other. -/
theorem exists_withIp_eq_error_iff {contact : Contact} {record : IpRecord} :
    (∃ cause, contact.withIp record = .error cause) ↔ contact.ips.length = maxFieldLength := by
  have hle := contact.ips_le
  rw [withIp, exists_dite_eq_error_iff, List.length_append, List.length_singleton]
  omega

/-- A contact is obtained by constructors and off the wire. -/
inductive IsObtainable : Contact → Prop where
  | make {kind : StationKind} {callsign : Bytes} {contact : Contact}
      (h : Contact.make kind callsign = .ok contact) : IsObtainable contact
  | withIp {contact result : Contact} {record : IpRecord} (h : IsObtainable contact)
      (hresult : contact.withIp record = .ok result) : IsObtainable result
  | decode {bytes : Bytes} {contact : Contact} (h : Contact.decode bytes = .ok contact) :
      IsObtainable contact

/-- **There are no other contacts** than those that can be obtained. -/
theorem isObtainable (contact : Contact) : contact.IsObtainable := by
  obtain ⟨kind, callsign, ips, hcallsign, hips⟩ := contact
  -- The last address record is the one that was added last.
  induction ips using List.reverseRecOn with
  | nil => exact .make (dif_pos hcallsign)
  | append_singleton ips record ih =>
    have hshorter : ips.length ≤ maxFieldLength := by
      rw [List.length_append] at hips
      omega
    exact .withIp (ih hshorter) (dif_pos hips)

end Contact

/-! ## Lengths in full -/

/-- The bytes are those of an address record, with its length in full. -/
def IpRecord.IsSpelledBy (record : IpRecord) (bytes : Bytes) : Prop :=
  ∃ length : UInt8, length.toNat = record.octets.length ∧
    bytes = record.family.toByte :: length :: record.octets

theorem IpRecord.isSpelledBy_encode (record : IpRecord) : record.IsSpelledBy record.encode :=
  ⟨_, toNat_ofNat_of_le_maxFieldLength record.length_le, rfl⟩

namespace Contact

/-- The bytes are those of a contact, with all its lengths in full. -/
def IsSpelledBy (contact : Contact) (bytes : Bytes) : Prop :=
  ∃ (length count : UInt8) (records : List Bytes),
    length.toNat = contact.callsign.length ∧ count.toNat = contact.ips.length ∧
    List.Forall₂ IpRecord.IsSpelledBy contact.ips records ∧
    bytes = contact.kind.toByte :: length :: (contact.callsign ++ count :: records.flatten)

/-- **No length is cut off** when a contact is written. -/
theorem isSpelledBy_encode (contact : Contact) : contact.IsSpelledBy contact.encode := by
  refine ⟨_, _, contact.ips.map IpRecord.encode,
    toNat_ofNat_of_le_maxFieldLength contact.callsign_le,
    toNat_ofNat_of_le_maxFieldLength contact.ips_le, ?_, ?_⟩
  · rw [List.forall₂_map_right_iff, List.forall₂_same]
    exact fun record _ => record.isSpelledBy_encode
  · rw [encode, List.flatMap_def]

/-! ## Unique readability -/

variable {contact other : Contact}

/-- A contact is read off the front, whatever stands behind it. -/
theorem reader_encode_append (contact : Contact) (rest : Bytes) :
    reader (contact.encode ++ rest) = .ok (contact.canonical, rest) := by
  rw [readsBack_reader.eq_ok, encode_canonical]
  exact ⟨contact.isCanonical_canonical, rfl⟩

/-- **Contacts are self-delimiting**: bytes that begin with a contact begin with no other one. -/
theorem encode_append_eq_iff {rest rest' : Bytes} :
    contact.encode ++ rest = other.encode ++ rest' ↔
      contact.canonical = other.canonical ∧ rest = rest' := by
  constructor
  · intro h
    have hread := contact.reader_encode_append rest
    rw [h, reader_encode_append, Except.ok.injEq, Prod.mk.injEq] at hread
    exact ⟨hread.1.symm, hread.2.symm⟩
  · rintro ⟨hcanonical, rfl⟩
    rw [encode_eq_iff.mpr hcanonical]

/-- Contacts are written alike exactly when they read alike. -/
theorem encode_eq_iff_exists_decode : contact.encode = other.encode ↔
    ∃ read, decode contact.encode = .ok read ∧ decode other.encode = .ok read := by
  simp only [decode_encode, Except.ok.injEq, encode_eq_iff]
  constructor
  · intro h
    exact ⟨_, h, rfl⟩
  · rintro ⟨read, h, h'⟩
    exact h.trans h'.symm

/-- A contact comes back as it was exactly when its tags are spelled by their names. -/
theorem decode_encode_eq_self_iff : decode contact.encode = .ok contact ↔ contact.IsCanonical := by
  rw [decode_encode, Except.ok.injEq, canonical_eq_self_iff]

/-- **The bytes of a contact are its identity.** Constructors refuse a callsign or an address of more
than 255 bytes and one address more than 255, and nothing else. Every contact comes of them, and its
lengths are written in full. It ends by itself: if two contacts are followed by anything and the bytes
are the same, then the contacts are the same, but for the spelling of their tags, and so is what
follows. So contacts are written alike exactly when they read alike, as equal ones do, and a contact
comes back as it was exactly when no tag of it is spelled as an unnamed one although it has a name. -/
theorem encoding_is_identity :
    (∀ kind callsign, (∃ contact, make kind callsign = .ok contact) ↔ callsign.length ≤ 255) ∧
    (∀ family octets,
      (∃ record, IpRecord.make family octets = .ok record) ↔ octets.length ≤ 255) ∧
    (∀ (contact : Contact) record,
      (∃ cause, contact.withIp record = .error cause) ↔ contact.ips.length = 255) ∧
    (∀ contact : Contact, contact.IsObtainable ∧ contact.IsSpelledBy contact.encode) ∧
    (∀ (contact other : Contact) (rest rest' : Bytes),
      contact.encode ++ rest = other.encode ++ rest' ↔
        contact.canonical = other.canonical ∧ rest = rest') ∧
    (∀ contact other : Contact, contact.encode = other.encode ↔
      ∃ read, decode contact.encode = .ok read ∧ decode other.encode = .ok read) ∧
    (∀ contact other : Contact, contact = other → contact.encode = other.encode) ∧
    ∀ contact : Contact, decode contact.encode = .ok contact ↔ contact.IsCanonical := by
  refine ⟨fun _ _ => exists_make_eq_ok_iff, fun _ _ => IpRecord.exists_make_eq_ok_iff,
    fun _ _ => exists_withIp_eq_error_iff, fun contact => ⟨contact.isObtainable, ?_⟩,
    fun _ _ _ _ => encode_append_eq_iff, fun _ _ => encode_eq_iff_exists_decode, ?_,
    fun _ => decode_encode_eq_self_iff⟩
  · exact contact.isSpelledBy_encode
  · rintro contact other rfl
    rfl

/-- Two contacts that differ by how they spell their tags are written alike, with a byte behind them
too. Only the one that spells them by their names comes back as it was. A contact with 255 addresses
refuses the next. -/
theorem encoding_is_identity_of_twins :
    let record : IpRecord := ⟨.v6, [1, 2], by decide⟩
    let named : Contact := ⟨.user, [67], [record], by decide, by decide⟩
    let unnamed : Contact :=
      ⟨.other 0, [67], [{ record with family := .other 1 }], by decide, by decide⟩
    let full : Contact := ⟨.user, [67], .replicate 255 record, by decide, by decide +kernel⟩
    named ≠ unnamed ∧ named.encode ++ [9] = unnamed.encode ++ [9] ∧
      named.canonical = unnamed.canonical ∧
      (∃ read, decode named.encode = .ok read ∧ decode unnamed.encode = .ok read) ∧
      decode named.encode = .ok named ∧ decode unnamed.encode ≠ .ok unnamed ∧
      full.IsObtainable ∧ ∃ cause, full.withIp record = .error cause := by
  intro record named unnamed full
  obtain ⟨-, -, hfull, hspelled, hdelimited, hread, -, hback⟩ := encoding_is_identity
  have hsame : named.encode ++ [9] = unnamed.encode ++ [9] := by decide +kernel
  obtain ⟨hcanonical, -⟩ := (hdelimited named unnamed [9] [9]).mp hsame
  have hunnamed : ¬ unnamed.IsCanonical := by
    rw [← canonical_eq_self_iff]
    decide
  exact ⟨by decide, hsame, hcanonical, (hread _ _).mp (List.append_cancel_right hsame),
    (hback named).mpr (canonical_eq_self_iff.mp rfl), mt (hback unnamed).mp hunnamed,
    (hspelled full).1, (hfull full record).mpr List.length_replicate⟩

end Contact

end RadioGossip
