import RadioGossip.Proofs.Framing
import RadioGossip.Proofs.Paths
import RadioGossip.Proofs.PayloadFormats

/-!
# Sizes

Before a record is written its size is known, and what fits an update or a frame is settled by such
sizes alone. A size **measures** a way of writing when it is the number of bytes that are written,
whenever any are. The sizes of address records, contacts, messages and frames do, and those of queries
and answers are sums of them.

What cannot be written has a size nevertheless. For a message it is never one that an update has room
for, so a message that was found to fit an update can be written.
-/

namespace RadioGossip

/-- What is written is as long as the size says, and it is the good values that are written. -/
structure Measures {α ε : Type} (size : α → Nat) (encode : α → Except ε Bytes)
    (good : α → Prop) : Prop where
  good_iff : ∀ value, good value ↔ ∃ wire, encode value = .ok wire
  length_eq : ∀ value wire, encode value = .ok wire → wire.length = size value

/-- A size measures a way of writing if it is the length of the records of what is good. -/
theorem measures_of_eq_ok_iff {α ε : Type} {size : α → Nat} {encode : α → Except ε Bytes}
    {record : α → Bytes} {good : α → Prop}
    (hencode : ∀ value wire, encode value = .ok wire ↔ good value ∧ wire = record value)
    (hlength : ∀ value, (record value).length = size value) : Measures size encode good where
  good_iff value := by
    simp only [hencode, exists_and_left, exists_eq, and_true]
  length_eq value wire h := by
    obtain ⟨-, rfl⟩ := (hencode value wire).mp h
    exact hlength value

theorem Measures.congr {α ε : Type} {size : α → Nat} {encode : α → Except ε Bytes}
    {good good' : α → Prop} (h : Measures size encode good) (hgood : ∀ value, good value ↔ good' value) :
    Measures size encode good' where
  good_iff value := (hgood value).symm.trans (h.good_iff value)
  length_eq := h.length_eq

/-! ## Messages and frames -/

namespace Message

theorem measures_encodedLength : Measures encodedLength encode Fits :=
  measures_of_eq_ok_iff (fun _ _ => encode_eq_ok_iff) length_record

/-- **A message that cannot be written** is longer than an update, too. -/
theorem lt_encodedLength_of_not_fits {message : Message} (h : ¬ message.Fits) :
    Path.maxLength < message.encodedLength :=
  Nat.not_le.mp (mt fits_of_encodedLength_le h)

end Message

namespace Frame

theorem encode_eq_ok_iff {bound : Nat} {payload wire : Bytes} :
    encode bound payload = .ok wire ↔ wrappedLength payload ≤ bound ∧ wire = wrap payload := by
  rcases Nat.lt_or_ge bound (wrappedLength payload) with hlt | hle
  · rw [encode_of_lt hlt]
    exact ⟨nofun, fun h => absurd h.1 (Nat.not_le.mpr hlt)⟩
  · rw [encode_of_le hle, Except.ok.injEq]
    exact ⟨fun h => ⟨hle, h.symm⟩, fun h => h.2.symm⟩

theorem measures_wrappedLength (bound : Nat) :
    Measures wrappedLength (encode bound) fun payload => wrappedLength payload ≤ bound :=
  measures_of_eq_ok_iff (fun _ _ => encode_eq_ok_iff) length_wrap

end Frame

/-! ## Queries and answers -/

/-- A query takes four bytes for the count and, for each key, eight for the number and those of the
contact. -/
theorem CacheQuery.measures : Measures
    (fun query : CacheQuery =>
      countLength + (query.keys.map fun key => 8 + key.source.encodedLength).sum)
    encode fun query => query.keys.length ≤ maxEntryCount :=
  measures_of_eq_ok_iff (fun _ _ => encode_eq_ok_iff) length_record

/-- An answer takes four bytes for the count and those of each message. -/
theorem CacheAnswer.measures : Measures
    (fun answer : CacheAnswer => countLength + (answer.messages.map Message.encodedLength).sum)
    encode fun answer =>
      (∀ message ∈ answer.messages, message.Fits) ∧ answer.messages.length ≤ maxEntryCount :=
  measures_of_eq_ok_iff (fun _ _ => encode_eq_ok_iff) length_record

namespace Reconciliation

/-- **Sizes are what they say.** An address record and a contact are as long as their sizes. So are a
message within the limits of path and payload and a payload in a frame within the bound, and no others
are written. A query takes four bytes and for each key eight and the size of its contact, an answer
four and the sizes of its messages, if these can be written and there are at most 4294967295 entries.
And a message that cannot be written, because its path or its payload is too long, has a size that no
update has room for. -/
theorem sizes_are_lengths :
    (∀ record : IpRecord, record.encode.length = record.encodedLength) ∧
    (∀ contact : Contact, contact.encode.length = contact.encodedLength) ∧
    Measures Message.encodedLength Message.encode
      (fun message => message.path.length ≤ 65535 ∧ message.payload.length ≤ 4294967295) ∧
    (∀ bound, Measures Frame.wrappedLength (Frame.encode bound)
      fun payload => Frame.wrappedLength payload ≤ bound) ∧
    Measures
      (fun query : CacheQuery => 4 + (query.keys.map fun key => 8 + key.source.encodedLength).sum)
      CacheQuery.encode (fun query => query.keys.length ≤ 4294967295) ∧
    Measures
      (fun answer : CacheAnswer => 4 + (answer.messages.map Message.encodedLength).sum)
      CacheAnswer.encode (fun answer =>
        (∀ message ∈ answer.messages, ∃ wire, message.encode = .ok wire) ∧
          answer.messages.length ≤ 4294967295) ∧
    ∀ message : Message, 65535 < message.path.length ∨ 4294967295 < message.payload.length →
      (∃ cause, message.encode = .error cause) ∧ 65535 < message.encodedLength := by
  refine ⟨IpRecord.length_encode, Contact.length_encode, ?_, Frame.measures_wrappedLength,
    CacheQuery.measures, ?_, fun message hlong => ?_⟩
  · exact Message.measures_encodedLength.congr fun _ => Message.fits_iff
  · have hgood (answer : CacheAnswer) : (∀ message ∈ answer.messages, message.Fits) ↔
        ∀ message ∈ answer.messages, ∃ wire, message.encode = .ok wire :=
      forall₂_congr fun message _ => Message.measures_encodedLength.good_iff message
    exact CacheAnswer.measures.congr fun answer => and_congr_left' (hgood answer)
  · have hnot : ¬ message.Fits := by
      rintro ⟨hpath, hpayload⟩
      exact hlong.elim (Nat.not_lt.mpr hpath) (Nat.not_lt.mpr hpayload)
    obtain ⟨field, length, max, hcause⟩ := Message.encode_eq_tooLong_iff.mpr hnot
    exact ⟨⟨_, hcause⟩, Message.lt_encodedLength_of_not_fits hnot⟩

/-- A message whose path is a byte too long cannot be written, and its size says that no update has
room for it; an answer with this message cannot be written either. A payload with a reserved byte fits
a frame that is as long as its size says. -/
theorem sizes_are_lengths_of_an_outgrown_path :
    let source : Contact := ⟨.user, [75], [], by decide, by decide⟩
    let path : Path := ⟨String.ofList (.replicate 65536 'A')⟩
    let message := { Message.make source 7 .cq [] with path }
    65535 < message.path.length ∧
      (∃ cause, message.encode = .error cause) ∧ 65535 < message.encodedLength ∧
      (¬ ∃ wire, CacheAnswer.encode ⟨[message]⟩ = .ok wire) ∧
      ∃ wire, Frame.encode 5 [Frame.startMarker, 7] = .ok wire ∧ wire.length = 5 := by
  intro source path message
  have hpath : 65535 < message.path.length := by
    have hlength : path.length = 65536 := Path.length_replicate (by decide) 65536
    rw [show message.path = path from rfl, hlength]
    decide
  obtain ⟨-, -, -, hframe, -, hanswer, hlong⟩ := sizes_are_lengths
  obtain ⟨⟨cause, hcause⟩, hlarge⟩ := hlong message (.inl hpath)
  obtain ⟨wire, hwire⟩ := ((hframe 5).good_iff [Frame.startMarker, 7]).mp (by decide)
  refine ⟨hpath, ⟨cause, hcause⟩, hlarge, ?_, wire, hwire, (hframe 5).length_eq _ wire hwire⟩
  rw [← hanswer.good_iff]
  rintro ⟨hwritten, -⟩
  obtain ⟨written, hok⟩ := hwritten message List.mem_cons_self
  rw [hcause] at hok
  cases hok

end Reconciliation

end RadioGossip
