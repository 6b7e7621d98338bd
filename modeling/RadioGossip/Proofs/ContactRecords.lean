import RadioGossip.Contact.Basic
import RadioGossip.Proofs.Reading

/-!
# The records of contacts

A contact is **canonical** when none of its tags is spelled as an unnamed one although it has a
name. A contact that was read off the wire is canonical, and the wire tells two canonical contacts
apart: the reader of contacts reads back their writing.

A contact that is not canonical is written like its canonical form, and that is what comes back.
-/

namespace RadioGossip

/-! ## Tags -/

/-- The laws of tags that are one byte each on the wire: every byte says a tag, and every tag with a
name is the one that its byte says. -/
structure TagLaws {τ : Type} (toByte : τ → UInt8) (ofByte other : UInt8 → τ) : Prop where
  toByte_ofByte : ∀ byte, toByte (ofByte byte) = byte
  toByte_other : ∀ byte, toByte (other byte) = byte
  ofByte_toByte : ∀ tag, (∀ byte, tag ≠ other byte) → ofByte (toByte tag) = tag

namespace TagLaws

variable {τ : Type} {toByte : τ → UInt8} {ofByte other : UInt8 → τ}

/-- A byte that says an unnamed tag is the byte of no other tag. -/
theorem eq_other_of_toByte_eq (h : TagLaws toByte ofByte other) {byte unnamed : UInt8}
    (hbyte : ofByte byte = other unnamed) {tag : τ} (htag : toByte tag = unnamed) :
    tag = other unnamed := by
  have hsame : byte = unnamed := by rw [← h.toByte_ofByte byte, hbyte, h.toByte_other]
  by_cases hunnamed : ∃ byte', tag = other byte'
  · obtain ⟨byte', rfl⟩ := hunnamed
    rw [← htag, h.toByte_other]
  · rw [← hbyte, hsame, ← htag, h.ofByte_toByte tag (not_exists.mp hunnamed)]

/-- A tag is what its byte says, unless it is an unnamed one with the byte of a named one. -/
theorem ofByte_toByte_of_forall (h : TagLaws toByte ofByte other) {tag : τ}
    (hcanonical : ∀ unnamed, tag = other unnamed →
      ∀ named, toByte named = unnamed → named = other unnamed) :
    ofByte (toByte tag) = tag := by
  by_cases hunnamed : ∃ unnamed, tag = other unnamed
  · obtain ⟨unnamed, rfl⟩ := hunnamed
    rw [h.toByte_other]
    exact hcanonical unnamed rfl _ (h.toByte_ofByte unnamed)
  · exact h.ofByte_toByte tag (not_exists.mp hunnamed)

end TagLaws

namespace StationKind

/-- The tag of an unnamed kind is that of no named kind. -/
def IsCanonical (kind : StationKind) : Prop :=
  ∀ tag, kind = .other tag → ∀ named : StationKind, named.toByte = tag → named = .other tag

theorem tagLaws : TagLaws toByte ofByte other where
  toByte_ofByte := toByte_ofByte
  toByte_other _ := rfl
  ofByte_toByte kind h := by
    cases kind with
    | other tag => exact absurd rfl (h tag)
    | _ => rfl

theorem isCanonical_ofByte (byte : UInt8) : (ofByte byte).IsCanonical :=
  fun _ h _ => tagLaws.eq_other_of_toByte_eq h

theorem ofByte_toByte {kind : StationKind} (h : kind.IsCanonical) : ofByte kind.toByte = kind :=
  tagLaws.ofByte_toByte_of_forall h

theorem canonical_eq_self_iff {kind : StationKind} : kind.canonical = kind ↔ kind.IsCanonical :=
  ⟨fun h => h ▸ isCanonical_ofByte _, ofByte_toByte⟩

@[simp] theorem toByte_canonical (kind : StationKind) : kind.canonical.toByte = kind.toByte :=
  toByte_ofByte _

end StationKind

namespace IpFamily

/-- The tag of an unnamed family is that of no named family. -/
def IsCanonical (family : IpFamily) : Prop :=
  ∀ tag, family = .other tag → ∀ named : IpFamily, named.toByte = tag → named = .other tag

theorem tagLaws : TagLaws toByte ofByte other where
  toByte_ofByte := toByte_ofByte
  toByte_other _ := rfl
  ofByte_toByte family h := by
    cases family with
    | other tag => exact absurd rfl (h tag)
    | _ => rfl

theorem isCanonical_ofByte (byte : UInt8) : (ofByte byte).IsCanonical :=
  fun _ h _ => tagLaws.eq_other_of_toByte_eq h

theorem ofByte_toByte {family : IpFamily} (h : family.IsCanonical) :
    ofByte family.toByte = family :=
  tagLaws.ofByte_toByte_of_forall h

theorem canonical_eq_self_iff {family : IpFamily} :
    family.canonical = family ↔ family.IsCanonical :=
  ⟨fun h => h ▸ isCanonical_ofByte _, ofByte_toByte⟩

@[simp] theorem toByte_canonical (family : IpFamily) : family.canonical.toByte = family.toByte :=
  toByte_ofByte _

end IpFamily

/-! ## Address records -/

/-- A length that a field may have is said by one byte. -/
theorem toNat_ofNat_of_le_maxFieldLength {length : Nat} (h : length ≤ maxFieldLength) :
    (UInt8.ofNat length).toNat = length := by
  rw [UInt8.toNat_ofNat']
  simp only [maxFieldLength] at h
  omega

namespace IpRecord

/-- The family of the record is spelled by its name. -/
def IsCanonical (record : IpRecord) : Prop := record.family.IsCanonical

theorem canonical_eq_self_iff {record : IpRecord} :
    record.canonical = record ↔ record.IsCanonical := by
  obtain ⟨family, octets, hlen⟩ := record
  simp [canonical, IsCanonical, IpFamily.canonical_eq_self_iff]

@[simp] theorem encode_canonical (record : IpRecord) : record.canonical.encode = record.encode := by
  simp [encode, canonical]

/-- The reader of address records reads back their writing. -/
theorem readsBack_reader : reader.ReadsBack encode IsCanonical := by
  intro input rest record
  simp only [reader, Reader.bind_eq_ok, Reader.u8_eq_ok, Reader.take_eq_ok, Reader.pure_eq_ok]
  constructor
  · rintro ⟨tag, _, rfl, length, _, rfl, ⟨octets, hlen⟩, _, rfl, rfl, rfl⟩
    refine ⟨IpFamily.isCanonical_ofByte tag, ?_⟩
    simp [encode, IpFamily.toByte_ofByte, hlen]
  · rintro ⟨hc, rfl⟩
    obtain ⟨family, octets, hle⟩ := record
    have hlen := toNat_ofNat_of_le_maxFieldLength hle
    refine ⟨family.toByte, _, rfl, UInt8.ofNat octets.length, _, rfl, ⟨octets, hlen.symm⟩, rest,
      rfl, ?_, rfl⟩
    simp only [IpFamily.ofByte_toByte hc]

end IpRecord

/-! ## Contacts -/

namespace Contact

/-- Kind and families of the contact are spelled by their names. -/
def IsCanonical (contact : Contact) : Prop :=
  contact.kind.IsCanonical ∧ ∀ ip ∈ contact.ips, ip.IsCanonical

theorem canonical_eq_self_iff {contact : Contact} :
    contact.canonical = contact ↔ contact.IsCanonical := by
  obtain ⟨kind, callsign, ips, hcallsign, hips⟩ := contact
  have hmap : ips.map IpRecord.canonical = ips ↔ ∀ ip ∈ ips, ip.canonical = ip := by
    simpa using List.map_eq_map_iff (f := IpRecord.canonical) (g := id) (l := ips)
  simp only [canonical, mk.injEq, true_and, StationKind.canonical_eq_self_iff, IsCanonical,
    ← IpRecord.canonical_eq_self_iff, hmap]

theorem isCanonical_canonical (contact : Contact) : contact.canonical.IsCanonical := by
  refine ⟨StationKind.isCanonical_ofByte _, fun ip hip => ?_⟩
  obtain ⟨record, -, rfl⟩ := List.mem_map.mp hip
  exact IpFamily.isCanonical_ofByte _

@[simp] theorem encode_canonical (contact : Contact) :
    contact.canonical.encode = contact.encode := by
  simp [encode, canonical, List.flatMap_map]

/-- The reader of contacts reads back their writing. -/
theorem readsBack_reader : reader.ReadsBack encode IsCanonical := by
  intro input rest contact
  simp only [reader, Reader.bind_eq_ok, Reader.u8_eq_ok, Reader.take_eq_ok,
    Reader.times_eq_ok IpRecord.readsBack_reader, Reader.pure_eq_ok]
  constructor
  · rintro ⟨tag, _, rfl, length, _, rfl, ⟨callsign, hcallsign⟩, _, rfl, count, _, rfl, ⟨ips, hips⟩,
      _, ⟨hgood, rfl⟩, rfl, rfl⟩
    refine ⟨⟨StationKind.isCanonical_ofByte tag, hgood⟩, ?_⟩
    simp [encode, StationKind.toByte_ofByte, hcallsign, hips]
  · rintro ⟨⟨hkind, hgood⟩, rfl⟩
    obtain ⟨kind, callsign, ips, hcallsign, hips⟩ := contact
    have hlen := toNat_ofNat_of_le_maxFieldLength hcallsign
    have hcount := toNat_ofNat_of_le_maxFieldLength hips
    refine ⟨kind.toByte, _, rfl, UInt8.ofNat callsign.length, _, rfl, ⟨callsign, hlen.symm⟩,
      UInt8.ofNat ips.length :: (ips.flatMap IpRecord.encode ++ rest), by simp,
      UInt8.ofNat ips.length, _, rfl, ⟨ips, hcount.symm⟩, rest, ⟨hgood, rfl⟩, ?_, rfl⟩
    simp only [StationKind.ofByte_toByte hkind]

/-- What comes back from the wire is the canonical form of what was written. -/
theorem decode_encode (contact : Contact) : decode contact.encode = .ok contact.canonical := by
  rw [decode, readsBack_reader.run_eq_ok_iff, encode_canonical]
  exact ⟨contact.isCanonical_canonical, List.prefix_rfl⟩

/-- A contact whose address records are short is short. -/
theorem encodedLength_le_of_forall {contact : Contact} {limit : Nat}
    (h : ∀ record ∈ contact.ips, record.octets.length ≤ limit) :
    contact.encodedLength ≤ 3 + maxFieldLength + maxFieldLength * (2 + limit) := by
  have hips : ∀ records : List IpRecord, (∀ record ∈ records, record.octets.length ≤ limit) →
      records.foldr (fun record length => record.encodedLength + length) 0 ≤
        records.length * (2 + limit) := by
    intro records hrecords
    induction records with
    | nil => exact Nat.zero_le _
    | cons record records ih =>
      obtain ⟨hfirst, hothers⟩ := List.forall_mem_cons.mp hrecords
      have hrecord : record.encodedLength ≤ 2 + limit := Nat.add_le_add_left hfirst 2
      rw [List.foldr_cons, List.length_cons, Nat.add_one_mul, Nat.add_comm]
      exact Nat.add_le_add (ih hothers) hrecord
  have hcallsign := contact.callsign_le
  have hcount := Nat.le_trans (hips contact.ips h)
    (Nat.mul_le_mul_right (2 + limit) contact.ips_le)
  exact Nat.add_le_add (Nat.add_le_add_left hcallsign 3) hcount

/-- The most bytes of a contact on the wire. -/
def maxEncodedLength : Nat := 65793

theorem encodedLength_le (contact : Contact) : contact.encodedLength ≤ maxEncodedLength :=
  encodedLength_le_of_forall fun record _ => record.length_le

theorem failsMalformed_reader : reader.FailsMalformed :=
  (Reader.failsMalformed_u8 _).bind fun _ =>
  (Reader.failsMalformed_u8 _).bind fun _ =>
  (Reader.failsMalformed_take _ _).bind fun _ =>
  (Reader.failsMalformed_u8 _).bind fun _ =>
  (Reader.FailsMalformed.times ((Reader.failsMalformed_u8 _).bind fun _ =>
    (Reader.failsMalformed_u8 _).bind fun _ =>
    (Reader.failsMalformed_take _ _).bind fun _ => Reader.failsMalformed_pure _) _).bind fun _ =>
  Reader.failsMalformed_pure _

/-- The contact of a user whose callsign is one letter. -/
def ofLetter (letter : UInt8) : Contact :=
  ⟨.user, [letter], [], Nat.le_of_ble_eq_true rfl, Nat.zero_le _⟩

end Contact

end RadioGossip
