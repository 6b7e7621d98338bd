import Mathlib.Algebra.Order.Ring.Nat
import RadioGossip.Proofs.MessageRecords
import RadioGossip.Reconciliation.Update

/-!
# The records of updates

An update, a query and an answer have a record each, which their reader reads back. The record of an
update wants its data within the limit; that of a query or an answer wants no more entries than its
count can say, and each entry of an answer within the limits of messages.

What comes back has its tags spelled by their names, so from the wire a station learns the
**canonical** form of what the other one wrote.
-/

namespace RadioGossip

/-! ## Lengths and counts -/

/-- What is written behind the check of a length. -/
theorem checkLength_eq_ok_iff {field : Field} {length max : Nat} {bytes wire : Bytes} :
    (do checkLength field length max; return bytes : Except WireError Bytes) = .ok wire ↔
      length ≤ max ∧ wire = bytes := by
  by_cases h : max < length
  · simp [checkLength, h, bind, Except.bind, Nat.not_le.mpr h]
  · simp [checkLength, h, bind, Except.bind, pure, Except.pure, Nat.not_lt.mp h, eq_comm]

/-- Reads entries behind their count. -/
def countedReader {α β : Type} (entry : Reader α) (field : Field) (make : List α → β) :
    Reader β := do
  let count ← Reader.u32 field
  let values ← entry.times count.toNat
  return make values.val

/-- Reading entries behind their count reads back the records of not too many of them. -/
theorem readsBack_countedReader {α β : Type} {entry : Reader α} {write : α → Bytes}
    {good : α → Prop} (h : entry.ReadsBack write good) (field : Field) {make : List α → β}
    {entries : β → List α} (hmake : ∀ whole, make (entries whole) = whole)
    (hentries : ∀ values, entries (make values) = values) :
    (countedReader entry field make).ReadsBack
      (fun whole =>
        Bytes.ofWord countLength (entries whole).length ++ (entries whole).flatMap write)
      fun whole =>
        (∀ value ∈ entries whole, good value) ∧ (entries whole).length ≤ maxEntryCount := by
  intro input rest whole
  simp only [countedReader, Reader.bind_eq_ok, Reader.u32_eq_ok, Reader.times_eq_ok h, Reader.pure_eq_ok]
  constructor
  · rintro ⟨count, _, rfl, ⟨values, hvalues⟩, _, ⟨hgood, rfl⟩, rfl, rfl⟩
    rw [hentries]
    refine ⟨⟨hgood, ?_⟩, by simp [countLength, hvalues]⟩
    have hcount := count.toNat_lt
    simp only [hvalues, maxEntryCount]
    omega
  · rintro ⟨⟨hgood, hlength⟩, rfl⟩
    have hcount : (UInt32.ofNat (entries whole).length).toNat = (entries whole).length := by
      rw [UInt32.toNat_ofNat']
      simp only [maxEntryCount] at hlength
      omega
    exact ⟨UInt32.ofNat (entries whole).length, (entries whole).flatMap write ++ rest,
      by simp [countLength, hcount], ⟨entries whole, hcount.symm⟩, rest, ⟨hgood, rfl⟩,
      hmake whole, rfl⟩

/-! ## The envelope -/

namespace UpdateOperation

theorem ofByte_eq_ok {tag : UInt8} {operation : UpdateOperation} :
    ofByte tag = .ok operation ↔ tag = operation.toByte := by
  simp only [ofByte]
  split
  · next h => cases operation <;> simp [h, toByte]
  · next h =>
    split
    · next h' => cases operation <;> simp [h', toByte]
    · next h' => cases operation <;> simp [h, h', toByte]

end UpdateOperation

namespace Update

/-- The bytes of an update whose data is short enough. -/
def record (update : Update) : Bytes :=
  update.operation.toByte :: Bytes.ofWord 2 update.data.length ++ update.data

theorem encode_eq_ok_iff {update : Update} {wire : Bytes} :
    update.encode = .ok wire ↔ update.data.length ≤ maxDataLength ∧ wire = update.record :=
  checkLength_eq_ok_iff

theorem operationReader_eq_ok {operation : UpdateOperation} {input rest : Bytes} :
    operationReader input = .ok (operation, rest) ↔ input = operation.toByte :: rest := by
  simp only [operationReader, Reader.bind_eq_ok, Reader.u8_eq_ok]
  constructor
  · rintro ⟨tag, left, rfl, h⟩
    cases htag : UpdateOperation.ofByte tag with
    | error cause => simp [htag] at h
    | ok operation' =>
      rw [htag] at h
      obtain ⟨rfl, rfl⟩ := Reader.pure_eq_ok.mp h
      rw [UpdateOperation.ofByte_eq_ok.mp htag]
  · rintro rfl
    refine ⟨operation.toByte, rest, rfl, ?_⟩
    rw [UpdateOperation.ofByte_eq_ok.mpr rfl]
    rfl

/-- The reader of updates reads back the records of those whose data is short enough. -/
theorem readsBack_reader :
    reader.ReadsBack record fun update => update.data.length ≤ maxDataLength := by
  intro input rest update
  simp only [reader, Reader.bind_eq_ok, operationReader_eq_ok, Reader.u16_eq_ok,
    Reader.take_eq_ok, Reader.pure_eq_ok]
  constructor
  · rintro ⟨operation, _, rfl, length, _, rfl, ⟨data, hdata⟩, _, rfl, rfl, rfl⟩
    refine ⟨?_, by simp [record, hdata]⟩
    have := length.toNat_lt
    simp only [hdata, maxDataLength]
    omega
  · rintro ⟨hdata, rfl⟩
    obtain ⟨operation, data⟩ := update
    have hlength : (UInt16.ofNat data.length).toNat = data.length := by
      rw [UInt16.toNat_ofNat']
      simp only [maxDataLength] at hdata
      omega
    exact ⟨operation, _, rfl, UInt16.ofNat data.length, data ++ rest, by simp [hlength],
      ⟨data, hlength.symm⟩, rest, rfl, rfl, rfl⟩

theorem decode_record {update : Update} (h : update.data.length ≤ maxDataLength) :
    decode update.record = .ok update := by
  rw [decode, readsBack_reader.run_eq_ok_iff]
  exact ⟨h, List.prefix_rfl⟩

end Update

/-! ## Queries -/

namespace CacheQuery

/-- The bytes of a query with not too many keys. -/
def record (query : CacheQuery) : Bytes :=
  Bytes.ofWord countLength query.keys.length ++ query.keys.flatMap encodeKey

theorem encode_eq_ok_iff {query : CacheQuery} {wire : Bytes} :
    query.encode = .ok wire ↔ query.keys.length ≤ maxEntryCount ∧ wire = query.record :=
  checkLength_eq_ok_iff

theorem length_record (query : CacheQuery) :
    query.record.length = countLength + (query.keys.map keyLength).sum := by
  simp [record, countLength, List.length_flatMap, length_encodeKey]

@[simp] theorem encodeKey_canonical (key : Key) : encodeKey key.canonical = encodeKey key := by
  simp [encodeKey, Key.canonical]

/-- The reader of keys reads back their writing. -/
theorem readsBack_keyReader : keyReader.ReadsBack encodeKey fun key => key.source.IsCanonical := by
  intro input rest key
  simp only [keyReader, Reader.bind_eq_ok, Reader.u64_eq_ok, Contact.readsBack_reader.eq_ok,
    Reader.pure_eq_ok]
  constructor
  · rintro ⟨sequence, _, rfl, source, _, ⟨hsource, rfl⟩, rfl, rfl⟩
    exact ⟨hsource, by simp [encodeKey]⟩
  · rintro ⟨hsource, rfl⟩
    exact ⟨key.sequence, key.source.encode ++ rest, by simp [encodeKey], key.source, rest,
      ⟨hsource, rfl⟩, rfl, rfl⟩

/-- The reader of queries reads back the records of those with not too many keys. -/
theorem readsBack_reader : reader.ReadsBack record fun query =>
    (∀ key ∈ query.keys, key.source.IsCanonical) ∧ query.keys.length ≤ maxEntryCount :=
  readsBack_countedReader readsBack_keyReader .queryCount (fun _ => rfl) fun _ => rfl

/-- The query that comes back from the wire names the canonical keys. -/
theorem decode_record {query : CacheQuery} (h : query.keys.length ≤ maxEntryCount) :
    decode query.record = .ok ⟨query.keys.map Key.canonical⟩ := by
  have hrecord : query.record = record ⟨query.keys.map Key.canonical⟩ := by
    simp [record, List.flatMap_map]
  rw [hrecord, decode, readsBack_reader.run_eq_ok_iff]
  refine ⟨⟨fun key hkey => ?_, by simpa using h⟩, List.prefix_rfl⟩
  obtain ⟨key', -, rfl⟩ := List.mem_map.mp hkey
  exact key'.source.isCanonical_canonical

end CacheQuery

/-! ## Answers -/

namespace CacheAnswer

/-- The bytes of an answer with not too many messages, all of which can be written. -/
def record (answer : CacheAnswer) : Bytes :=
  Bytes.ofWord countLength answer.messages.length ++ answer.messages.flatMap Message.record

theorem length_record (answer : CacheAnswer) :
    answer.record.length = countLength + (answer.messages.map Message.encodedLength).sum := by
  simp [record, countLength, List.length_flatMap, Message.length_record]

theorem encodeMessages_of_fits {messages : List Message} (h : ∀ message ∈ messages, message.Fits) :
    encodeMessages messages = .ok (messages.flatMap Message.record) := by
  induction messages with
  | nil => rfl
  | cons message messages ih =>
    obtain ⟨hfirst, hothers⟩ := List.forall_mem_cons.mp h
    rw [encodeMessages, Message.encode_of_fits hfirst, ih hothers]
    rfl

theorem encode_of_fits {answer : CacheAnswer} (hlength : answer.messages.length ≤ maxEntryCount)
    (hfits : ∀ message ∈ answer.messages, message.Fits) : answer.encode = .ok answer.record := by
  simp only [encode, checkLength, if_neg (Nat.not_lt.mpr hlength), encodeMessages_of_fits hfits]
  rfl

/-- The reader of answers reads back the records of those with not too many messages. -/
theorem readsBack_reader : reader.ReadsBack record fun answer =>
    (∀ message ∈ answer.messages, message.IsCanonical ∧ message.Fits) ∧
      answer.messages.length ≤ maxEntryCount :=
  readsBack_countedReader Message.readsBack_reader .responseCount (fun _ => rfl) fun _ => rfl

/-- The answer that comes back from the wire holds the canonical messages. -/
theorem decode_record {answer : CacheAnswer} (hlength : answer.messages.length ≤ maxEntryCount)
    (hfits : ∀ message ∈ answer.messages, message.Fits) :
    decode answer.record = .ok ⟨answer.messages.map Message.canonical⟩ := by
  have hrecord : answer.record = record ⟨answer.messages.map Message.canonical⟩ := by
    simp [record, List.flatMap_map]
  rw [hrecord, decode, readsBack_reader.run_eq_ok_iff]
  refine ⟨⟨fun message hmessage => ?_, by simpa using hlength⟩, List.prefix_rfl⟩
  obtain ⟨message', hmessage', rfl⟩ := List.mem_map.mp hmessage
  have hfits' := hfits message' hmessage'
  exact ⟨message'.isCanonical_canonical, hfits'.path, hfits'.payload⟩

end CacheAnswer

end RadioGossip
