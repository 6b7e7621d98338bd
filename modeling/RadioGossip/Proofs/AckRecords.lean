import RadioGossip.Flood.Engine
import RadioGossip.Proofs.MessageRecords

/-!
# The records of acknowledgements

The payload of an acknowledgement is one contact and one number, and its path is one callsign. Both
are far below what the wire has room for, whatever the contacts are, so an acknowledgement can always
be written: a message is answered exactly when it asks for it.
-/

namespace RadioGossip

namespace Ack

/-- The reader of acknowledgements reads back their writing. -/
theorem readsBack_reader : reader.ReadsBack encode fun ack => ack.contact.IsCanonical := by
  intro input rest ack
  simp only [reader, Reader.bind_eq_ok, Contact.readsBack_reader.eq_ok, Reader.u64_eq_ok,
    Reader.pure_eq_ok]
  constructor
  · rintro ⟨contact, _, ⟨hcanonical, rfl⟩, sequence, _, rfl, rfl, rfl⟩
    exact ⟨hcanonical, (List.append_assoc ..).symm⟩
  · rintro ⟨hcanonical, rfl⟩
    exact ⟨ack.contact, _, ⟨hcanonical, List.append_assoc ..⟩, ack.sequence, rest, rfl, rfl, rfl⟩

/-- An acknowledgement of a message whose source is canonical is read as what was written. -/
theorem decode_encode {ack : Ack} (h : ack.contact.IsCanonical) : decode ack.encode = .ok ack := by
  rw [decode, readsBack_reader.run_eq_ok_iff]
  exact ⟨h, List.prefix_rfl⟩

theorem length_encode_le (ack : Ack) : ack.encode.length ≤ Contact.maxEncodedLength + 8 := by
  rw [encode, List.length_append, Contact.length_encode, Bytes.length_ofWord]
  exact Nat.add_le_add_right ack.contact.encodedLength_le 8

end Ack

namespace Engine

variable {engine : Engine} {message : Message} {wire : Bytes}

theorem isNoCache_acknowledgement (engine : Engine) (message : Message) :
    (engine.acknowledgement message).canonical.isNoCache = true := by
  show (Message.noCacheFlag &&& Message.noCacheFlag != 0) = true
  decide

/-- A callsign is shown by a few bytes. -/
theorem length_path_acknowledgement_le (engine : Engine) (message : Message) :
    (engine.acknowledgement message).path.length ≤ 4 * maxFieldLength :=
  Nat.le_trans (Text.utf8ByteSize_ofBytes_le engine.self.callsign)
    (Nat.mul_le_mul_left 4 engine.self.callsign_le)

/-- A contact has room for a limited number of addresses. -/
theorem length_payload_acknowledgement_le (engine : Engine) (message : Message) :
    (engine.acknowledgement message).payload.length ≤ Contact.maxEncodedLength + 8 :=
  (Ack.ofKey message.key).length_encode_le

/-- So an acknowledgement can be written whatever it is about. -/
theorem fits_acknowledgement (engine : Engine) (message : Message) :
    (engine.acknowledgement message).Fits where
  path := Nat.le_trans (engine.length_path_acknowledgement_le message) (by decide)
  payload := Nat.le_trans (engine.length_payload_acknowledgement_le message) (by decide)

/-- An acknowledgement comes back as it was written, its tags spelled by their names. -/
theorem decode_acknowledgement (engine : Engine) (message : Message) :
    Message.decode (engine.acknowledgement message).record =
      .ok (engine.acknowledgement message).canonical :=
  Message.decode_record (engine.fits_acknowledgement message)

theorem replyTo_of_requested (h : message.isAckRequested = true) :
    engine.replyTo message = some (engine.acknowledgement message).record := by
  rw [replyTo, if_pos h, Message.encode_of_fits (engine.fits_acknowledgement message)]
  rfl

theorem replyTo_of_not_requested (h : message.isAckRequested = false) :
    engine.replyTo message = none := by
  simp [replyTo, h]

/-- **A message is answered exactly when it asks for it.** -/
theorem replyTo_eq_some_iff :
    engine.replyTo message = some wire ↔
      message.isAckRequested = true ∧ wire = (engine.acknowledgement message).record := by
  cases h : message.isAckRequested with
  | true => simp [replyTo_of_requested h, eq_comm]
  | false => simp [replyTo_of_not_requested h]

end Engine

end RadioGossip
