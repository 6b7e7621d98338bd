import RadioGossip.Message.Basic
import RadioGossip.Proofs.ContactRecords

/-!
# The records of messages

A message is **canonical** when its source is and when the tag of its payload is spelled by its
name. What comes off the wire is canonical, and a byte string is read as a canonical message exactly
when it begins with the record of that message. Any other byte string is malformed.

Writing has two limits of its own, the lengths of the path and of the payload. A message within them
has a record, and reading that record gives the canonical form of the message.
-/

namespace RadioGossip

namespace PayloadKind

/-- The tag of an unnamed kind is that of no named kind. -/
def IsCanonical (kind : PayloadKind) : Prop :=
  ∀ tag, kind = .other tag → ∀ named : PayloadKind, named.toByte = tag → named = .other tag

theorem tagLaws : TagLaws toByte ofByte other where
  toByte_ofByte := toByte_ofByte
  toByte_other _ := rfl
  ofByte_toByte kind h := by
    cases kind with
    | other tag => exact absurd rfl (h tag)
    | _ => rfl

theorem isCanonical_ofByte (byte : UInt8) : (ofByte byte).IsCanonical :=
  fun _ h _ => tagLaws.eq_other_of_toByte_eq h

theorem ofByte_toByte {kind : PayloadKind} (h : kind.IsCanonical) : ofByte kind.toByte = kind :=
  tagLaws.ofByte_toByte_of_forall h

theorem canonical_eq_self_iff {kind : PayloadKind} : kind.canonical = kind ↔ kind.IsCanonical :=
  ⟨fun h => h ▸ isCanonical_ofByte _, ofByte_toByte⟩

@[simp] theorem toByte_canonical (kind : PayloadKind) : kind.canonical.toByte = kind.toByte :=
  toByte_ofByte _

end PayloadKind

namespace Message

/-- The tags of the message are spelled by their names. -/
def IsCanonical (message : Message) : Prop :=
  message.source.IsCanonical ∧ message.kind.IsCanonical

/-- Path and payload are within what their lengths on the wire can say. -/
structure Fits (message : Message) : Prop where
  path : message.path.length ≤ Path.maxLength
  payload : message.payload.length ≤ maxPayloadLength

theorem fits_iff {message : Message} :
    message.Fits ↔
      message.path.length ≤ Path.maxLength ∧ message.payload.length ≤ maxPayloadLength :=
  ⟨fun h => ⟨h.path, h.payload⟩, fun h => ⟨h.1, h.2⟩⟩

instance (message : Message) : Decidable message.Fits := decidable_of_iff _ fits_iff.symm

/-- A message that is as a whole no longer than the longest path is within the limits. -/
theorem fits_of_encodedLength_le {message : Message} (h : message.encodedLength ≤ Path.maxLength) :
    message.Fits := by
  simp only [encodedLength, Path.maxLength] at h
  constructor
  · simp only [Path.maxLength]
    omega
  · simp only [maxPayloadLength]
    omega

theorem canonical_eq_self_iff {message : Message} :
    message.canonical = message ↔ message.IsCanonical := by
  obtain ⟨version, sequence, ttl, flags, source, path, kind, payload⟩ := message
  simp [canonical, IsCanonical, Contact.canonical_eq_self_iff, PayloadKind.canonical_eq_self_iff]

instance (message : Message) : Decidable message.IsCanonical :=
  decidable_of_iff _ canonical_eq_self_iff

theorem isCanonical_canonical (message : Message) : message.canonical.IsCanonical :=
  ⟨Contact.isCanonical_canonical _, PayloadKind.isCanonical_ofByte _⟩

@[simp] theorem record_canonical (message : Message) : message.canonical.record = message.record := by
  simp [record, canonical]

/-! ## Writing -/

theorem encode_of_fits {message : Message} (h : message.Fits) :
    message.encode = .ok message.record := by
  simp only [encode, checkLength, if_neg (Nat.not_lt.mpr h.path),
    if_neg (Nat.not_lt.mpr h.payload)]
  rfl

/-- A field is too long for the wire exactly when the message is beyond its limits. -/
theorem encode_eq_tooLong_iff {message : Message} :
    (∃ field length max, message.encode = .error (.tooLong field length max)) ↔ ¬ message.Fits := by
  constructor
  · rintro ⟨field, length, max, herror⟩ hfits
    rw [encode_of_fits hfits] at herror
    cases herror
  · intro h
    simp only [encode, checkLength]
    by_cases hpath : Path.maxLength < message.path.length
    · rw [if_pos hpath]
      exact ⟨_, _, _, rfl⟩
    · rw [if_neg hpath]
      by_cases hpayload : maxPayloadLength < message.payload.length
      · rw [if_pos hpayload]
        exact ⟨_, _, _, rfl⟩
      · exact absurd ⟨Nat.not_lt.mp hpath, Nat.not_lt.mp hpayload⟩ h

theorem encode_eq_ok_iff {message : Message} {wire : Bytes} :
    message.encode = .ok wire ↔ message.Fits ∧ wire = message.record := by
  by_cases h : message.Fits
  · rw [encode_of_fits h, Except.ok.injEq]
    exact ⟨fun hwire => ⟨h, hwire.symm⟩, fun hwire => hwire.2.symm⟩
  · obtain ⟨field, length, max, herror⟩ := encode_eq_tooLong_iff.mpr h
    rw [herror]
    exact ⟨nofun, fun hwire => absurd hwire.1 h⟩

/-! ## Reading -/

theorem pathReader_eq_ok {length : Nat} {path : Path} {input rest : Bytes} :
    pathReader length input = .ok (path, rest) ↔
      path.length = length ∧ input = path.utf8 ++ rest := by
  simp only [pathReader, Reader.bind_eq_ok, Reader.take_eq_ok]
  constructor
  · rintro ⟨⟨bytes, hlen⟩, left, rfl, h⟩
    cases htext : Text.ofUtf8? bytes with
    | none => simp [htext] at h
    | some text =>
      rw [htext] at h
      obtain ⟨rfl, rfl⟩ := Reader.pure_eq_ok.mp h
      have hbytes : Path.utf8 ⟨text⟩ = bytes := Text.utf8_of_ofUtf8? htext
      rw [← Path.length_utf8, hbytes]
      exact ⟨hlen, rfl⟩
  · rintro ⟨hlen, rfl⟩
    refine ⟨⟨path.utf8, path.length_utf8.trans hlen⟩, rest, rfl, ?_⟩
    have htext : Text.ofUtf8? path.utf8 = some path.text := Text.ofUtf8?_utf8 path.text
    simp [htext]

/-- The reader of messages reads back the records of those that fit. -/
theorem readsBack_reader :
    reader.ReadsBack record fun message => message.IsCanonical ∧ message.Fits := by
  intro input rest message
  simp only [reader, Reader.bind_eq_ok, Reader.u8_eq_ok, Reader.u16_eq_ok, Reader.u32_eq_ok,
    Reader.u64_eq_ok, Reader.take_eq_ok, Contact.readsBack_reader.eq_ok, pathReader_eq_ok,
    Reader.pure_eq_ok]
  constructor
  · rintro ⟨version, _, rfl, sequence, _, rfl, ttl, _, rfl, flags, _, rfl, source, _, ⟨hsource, rfl⟩,
      pathLength, _, rfl, path, _, ⟨hpath, rfl⟩, tag, _, rfl, payloadLength, _, rfl,
      ⟨payload, hpayload⟩, _, rfl, rfl, rfl⟩
    -- A length that was read is within the limits, for these are what its word can say.
    refine ⟨⟨⟨hsource, PayloadKind.isCanonical_ofByte tag⟩, ?_, ?_⟩, ?_⟩
    · have := pathLength.toNat_lt
      simp only [hpath, Path.maxLength]
      omega
    · have := payloadLength.toNat_lt
      simp only [hpayload, maxPayloadLength]
      omega
    · simp [record, hpath, hpayload, PayloadKind.toByte_ofByte]
  · rintro ⟨⟨⟨hsource, hkind⟩, hpath, hpayload⟩, rfl⟩
    obtain ⟨version, sequence, ttl, flags, source, path, kind, payload⟩ := message
    have hp : (UInt16.ofNat path.length).toNat = path.length := by
      rw [UInt16.toNat_ofNat']
      simp only [Path.maxLength] at hpath
      omega
    have hl : (UInt32.ofNat payload.length).toNat = payload.length := by
      rw [UInt32.toNat_ofNat']
      simp only [maxPayloadLength] at hpayload
      omega
    have hrecord : record ⟨version, sequence, ttl, flags, source, path, kind, payload⟩ ++ rest =
        Bytes.ofWord 2 version.toNat ++ (Bytes.ofWord 8 sequence.toNat ++ (ttl :: flags ::
          (source.encode ++ (Bytes.ofWord 2 path.length ++ (path.utf8 ++ (kind.toByte ::
            (Bytes.ofWord 4 payload.length ++ (payload ++ rest)))))))) := by
      simp [record]
    refine ⟨version, _, hrecord, sequence, _, rfl, ttl, _, rfl, flags, _, rfl, source, _,
      ⟨hsource, rfl⟩, UInt16.ofNat path.length, _, by rw [hp], path, _, ⟨hp.symm, rfl⟩, kind.toByte,
      _, rfl, UInt32.ofNat payload.length, _, by simp only [hl], ⟨payload, hl.symm⟩, rest, rfl, ?_, rfl⟩
    simp only [PayloadKind.ofByte_toByte hkind]

theorem failsMalformed_pathReader (length : Nat) : (pathReader length).FailsMalformed := by
  refine (Reader.failsMalformed_take _ _).bind fun bytes => ?_
  cases Text.ofUtf8? bytes.val with
  | some text => exact Reader.failsMalformed_pure _
  | none => exact Reader.failsMalformed_refuse rfl

theorem failsMalformed_reader : reader.FailsMalformed :=
  (Reader.failsMalformed_u16 _).bind fun _ =>
  (Reader.failsMalformed_u64 _).bind fun _ =>
  (Reader.failsMalformed_u8 _).bind fun _ =>
  (Reader.failsMalformed_u8 _).bind fun _ =>
  Contact.failsMalformed_reader.bind fun _ =>
  (Reader.failsMalformed_u16 _).bind fun _ =>
  (failsMalformed_pathReader _).bind fun _ =>
  (Reader.failsMalformed_u8 _).bind fun _ =>
  (Reader.failsMalformed_u32 _).bind fun _ =>
  (Reader.failsMalformed_take _ _).bind fun _ => Reader.failsMalformed_pure _

/-- A byte string is read as a message exactly when it begins with the record of that message, and
the message is canonical. -/
theorem decode_eq_ok {input : Bytes} {message : Message} :
    decode input = .ok message ↔
      message.IsCanonical ∧ ∃ wire, message.encode = .ok wire ∧ wire <+: input := by
  rw [decode, readsBack_reader.run_eq_ok_iff]
  simp only [encode_eq_ok_iff]
  constructor
  · rintro ⟨⟨hc, hfits⟩, hprefix⟩
    exact ⟨hc, _, ⟨hfits, rfl⟩, hprefix⟩
  · rintro ⟨hc, _, ⟨hfits, rfl⟩, hprefix⟩
    exact ⟨⟨hc, hfits⟩, hprefix⟩

/-- What comes back from the wire is the canonical form of what was written. -/
theorem decode_record {message : Message} (h : message.Fits) :
    decode message.record = .ok message.canonical := by
  have hfits : message.canonical.Fits := ⟨h.path, h.payload⟩
  rw [← record_canonical, decode_eq_ok]
  exact ⟨message.isCanonical_canonical, _, encode_of_fits hfits, List.prefix_rfl⟩

/-! ## The format -/

/-- **Reading and writing messages are exact inverses.** A byte string is read as a message exactly
when the message is canonical and the byte string begins with its record; whatever cannot be read is
malformed. A message within the limits of path and payload is written, and its canonical form comes
back; beyond them, and only there, a field is too long. -/
theorem decode_encode_exact :
    (∀ input message, decode input = .ok message ↔
      message.IsCanonical ∧ ∃ wire, message.encode = .ok wire ∧ wire <+: input) ∧
    (∀ input, (∀ message, decode input ≠ .ok message) →
      ∃ cause, decode input = .error cause ∧ cause.isMalformed = true) ∧
    (∀ message : Message, message.path.length ≤ 65535 → message.payload.length ≤ 4294967295 →
      ∃ wire, message.encode = .ok wire ∧ decode wire = .ok message.canonical ∧
        (decode wire = .ok message ↔ message.IsCanonical)) ∧
    ∀ message : Message, (∃ field length max, message.encode = .error (.tooLong field length max)) ↔
      65535 < message.path.length ∨ 4294967295 < message.payload.length := by
  refine ⟨fun _ _ => decode_eq_ok, fun input h => ?_, fun message hpath hpayload => ?_,
    fun message => ?_⟩
  · obtain ⟨message, hok⟩ | hfail := failsMalformed_reader.run_or input
    · exact absurd hok (h message)
    · exact hfail
  · have hback : decode message.record = .ok message.canonical := decode_record ⟨hpath, hpayload⟩
    refine ⟨_, encode_of_fits ⟨hpath, hpayload⟩, hback, ?_⟩
    rw [hback, Except.ok.injEq, canonical_eq_self_iff]
  · rw [encode_eq_tooLong_iff, fits_iff, Decidable.not_and_iff_not_or_not, Nat.not_le, Nat.not_le]
    rfl

/-- A message whose source spells the kind of a mobile user as an unnamed one comes back with the
name. -/
theorem decode_encode_unnamed_user :
    let source : Contact := ⟨.other 0, [75], [], by decide, by decide⟩
    let message := { make source 7 .cq [1] with path := ⟨"N0A"⟩ }
    message.path.length ≤ 65535 ∧ message.payload.length ≤ 4294967295 ∧
      ∃ wire, message.encode = .ok wire ∧ decode wire = .ok message.canonical ∧
        (decode wire = .ok message ↔ message.IsCanonical) :=
  ⟨by decide, by decide, decode_encode_exact.2.2.1 _ (by decide) (by decide)⟩

end Message

end RadioGossip
