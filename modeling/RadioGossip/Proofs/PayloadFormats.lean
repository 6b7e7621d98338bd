import Mathlib.Algebra.Order.BigOperators.Group.List
import RadioGossip.Proofs.AckRecords
import RadioGossip.Proofs.UpdateRecords

/-!
# The formats of payloads

A format is **exact** when reading and writing it are inverses on canonical values: a value is read
from a byte string exactly when it is canonical and its record stands at the front, and whatever else
stands there is malformed. Updates, queries, answers and acknowledgements are exact.

The entries of a query or an answer stand behind a count, which says whatever the sender made it say.
What a reader does about it is **bounded** all the same. Each entry takes a minimum of bytes, so the
entries that a reader **completes** before it stops are no more than there are bytes for; it succeeds
exactly when they are as many as the count says.
-/

namespace RadioGossip

/-! ## Entries in a row -/

namespace Reader

variable {α β : Type} {reader : Reader α} {write : α → Bytes} {good : α → Prop}

/-- How often in a row, up to `count` times, the reader takes a value off the front. -/
def completed (reader : Reader α) : (count : Nat) → (input : Bytes) → Nat
  | 0, _ => 0
  | count + 1, input =>
    match reader input with
    | .ok (_, rest) => completed reader count rest + 1
    | .error _ => 0

theorem completed_succ_of_ok {count : Nat} {input rest : Bytes} {value : α}
    (h : reader input = .ok (value, rest)) :
    reader.completed (count + 1) input = reader.completed count rest + 1 := by
  rw [completed, h]

theorem completed_succ_of_error {count : Nat} {input : Bytes} {cause : WireError}
    (h : reader input = .error cause) : reader.completed (count + 1) input = 0 := by
  rw [completed, h]

/-- Reading a number of times succeeds exactly when all of them are completed. -/
theorem exists_times_eq_ok_iff {count : Nat} {input : Bytes} :
    (∃ values rest, times reader count input = .ok (values, rest)) ↔
      reader.completed count input = count := by
  induction count generalizing input with
  | zero => exact ⟨fun _ => rfl, fun _ => ⟨_, _, rfl⟩⟩
  | succ count ih =>
    cases h : reader input with
    | error cause =>
      rw [completed_succ_of_error h]
      simp [times, bind_apply, h]
    | ok result =>
      obtain ⟨value, rest⟩ := result
      rw [completed_succ_of_ok h, Nat.succ_inj, ← ih]
      simp only [times, bind_eq_ok, pure_eq_ok, h]
      constructor
      · rintro ⟨_, _, _, left, hvalue, others, _, hothers, -⟩
        cases hvalue
        exact ⟨others, _, hothers⟩
      · rintro ⟨others, left, hothers⟩
        exact ⟨_, left, value, rest, rfl, others, left, hothers, rfl, rfl⟩

/-- Records that stand at the front are completed first. -/
theorem completed_append (h : reader.ReadsBack write good) {values : List α}
    (hgood : ∀ value ∈ values, good value) (count : Nat) (rest : Bytes) :
    reader.completed (values.length + count) (values.flatMap write ++ rest) =
      values.length + reader.completed count rest := by
  induction values with
  | nil => simp
  | cons value values ih =>
    obtain ⟨hvalue, hvalues⟩ := List.forall_mem_cons.mp hgood
    have hread : reader (write value ++ (values.flatMap write ++ rest)) =
        .ok (value, values.flatMap write ++ rest) := h.eq_ok.mpr ⟨hvalue, rfl⟩
    rw [List.flatMap_cons, List.append_assoc, List.length_cons, Nat.add_right_comm,
      completed_succ_of_ok hread, ih hvalues, Nat.add_right_comm]

/-- What was completed stands at the front, one record behind the other. -/
theorem exists_completed (h : reader.ReadsBack write good) (count : Nat) (input : Bytes) :
    ∃ (values : List α) (rest : Bytes), values.length = reader.completed count input ∧
      (∀ value ∈ values, good value) ∧ input = values.flatMap write ++ rest := by
  induction count generalizing input with
  | zero => exact ⟨[], input, rfl, nofun, rfl⟩
  | succ count ih =>
    cases hread : reader input with
    | error cause =>
      rw [completed_succ_of_error hread]
      exact ⟨[], input, rfl, nofun, rfl⟩
    | ok result =>
      obtain ⟨value, left⟩ := result
      obtain ⟨hvalue, rfl⟩ := h.eq_ok.mp hread
      obtain ⟨values, rest, hlength, hvalues, rfl⟩ := ih left
      refine ⟨value :: values, rest, ?_, List.forall_mem_cons.mpr ⟨hvalue, hvalues⟩, ?_⟩
      · rw [completed_succ_of_ok hread, List.length_cons, hlength]
      · rw [List.flatMap_cons, List.append_assoc]

/-- Where a record takes a minimum of bytes, no more are completed than there are bytes for. -/
theorem completed_le_div (h : reader.ReadsBack write good) {minimum : Nat} (hpos : 0 < minimum)
    (hminimum : ∀ value, minimum ≤ (write value).length) (count : Nat) (input : Bytes) :
    reader.completed count input ≤ input.length / minimum := by
  obtain ⟨values, rest, hlength, -, rfl⟩ := exists_completed h count input
  rw [← hlength, Nat.le_div_iff_mul_le hpos, List.length_append, List.length_flatMap]
  have hsum : (values.map fun value => (write value).length).length * minimum ≤
      (values.map fun value => (write value).length).sum :=
    List.card_nsmul_le_sum _ _ (List.forall_mem_map.mpr fun value _ => hminimum value)
  rw [List.length_map] at hsum
  exact Nat.le_trans hsum (Nat.le_add_right _ _)

end Reader

/-! ## Exact formats -/

/-- What is read from a byte string is a canonical value whose record stands at the front, every
such value is read, and everything else is malformed. -/
structure IsExact {α : Type} (decode : Bytes → Except WireError α)
    (encode : α → Except WireError Bytes) (canonical : α → Prop) : Prop where
  eq_ok_iff : ∀ input value, decode input = .ok value ↔
    canonical value ∧ ∃ wire, encode value = .ok wire ∧ wire <+: input
  malformed : ∀ input, (∀ value, decode input ≠ .ok value) →
    ∃ cause, decode input = .error cause ∧ cause.isMalformed = true

/-- A reader that reads back what is written within some limits, and else fails only on what is
malformed, makes a format exact. -/
theorem isExact_run {α : Type} {reader : Reader α} {record : α → Bytes}
    {encode : α → Except WireError Bytes} {canonical fits : α → Prop}
    (hreads : reader.ReadsBack record fun value => canonical value ∧ fits value)
    (hfails : reader.FailsMalformed)
    (hencode : ∀ value wire, encode value = .ok wire ↔ fits value ∧ wire = record value) :
    IsExact reader.run encode canonical where
  eq_ok_iff input value := by
    rw [hreads.run_eq_ok_iff]
    simp only [hencode]
    constructor
    · rintro ⟨⟨hcanonical, hfits⟩, hfront⟩
      exact ⟨hcanonical, _, ⟨hfits, rfl⟩, hfront⟩
    · rintro ⟨hcanonical, _, ⟨hfits, rfl⟩, hfront⟩
      exact ⟨⟨hcanonical, hfits⟩, hfront⟩
  malformed input h := by
    obtain ⟨value, hok⟩ | hfail := hfails.run_or input
    · exact absurd hok (h value)
    · exact hfail

/-! ## Entries behind their count -/

/-- The number that the count at the front says. -/
def countAt (input : Bytes) : Nat := Bytes.toWord (input.take countLength)

/-- What stands behind the count. -/
def behindCount (input : Bytes) : Bytes := input.drop countLength

/-- The number of entries that room is set aside for before they are read, when each of them takes
at least so many bytes. -/
def entriesReserved (minimum : Nat) (input : Bytes) : Nat :=
  min (countAt input) ((input.length - countLength) / minimum)

/-- What a reader does about the count at the front is bounded by the bytes there are, of which each
entry takes at least so many. -/
structure IsBounded {α β : Type} (decode : Bytes → Except WireError β) (entries : β → List α)
    (entry : Reader α) (minimum : Nat) : Prop where
  length_eq : ∀ input whole, decode input = .ok whole → (entries whole).length = countAt input
  length_le : ∀ input whole, decode input = .ok whole →
    (entries whole).length ≤ (input.length - countLength) / minimum
  length_le_reserved : ∀ input whole, decode input = .ok whole →
    (entries whole).length ≤ entriesReserved minimum input
  completed_le : ∀ input, entry.completed (countAt input) (behindCount input) ≤
    (input.length - countLength) / minimum
  malformed_of_lt : ∀ input, entry.completed (countAt input) (behindCount input) < countAt input →
    ∃ cause, decode input = .error cause ∧ cause.isMalformed = true
  exists_eq_ok_iff : ∀ input, (∃ whole, decode input = .ok whole) ↔
    countLength ≤ input.length ∧
      entry.completed (countAt input) (behindCount input) = countAt input

/-- The count can be read where there are enough bytes for it. -/
theorem u32_eq_ok_countAt {field : Field} {input rest : Bytes} {count : UInt32} :
    Reader.u32 field input = .ok (count, rest) ↔
      countLength ≤ input.length ∧ count.toNat = countAt input ∧ rest = behindCount input := by
  rw [Reader.u32_eq_ok]
  constructor
  · rintro rfl
    have hlength : (Bytes.ofWord 4 count.toNat).length = countLength := Bytes.length_ofWord ..
    refine ⟨?_, ?_, ?_⟩
    · rw [List.length_append, hlength]
      exact Nat.le_add_right _ _
    · rw [countAt, List.take_left' hlength, Bytes.toWord_ofWord count.toNat_lt]
    · rw [behindCount, List.drop_left' hlength]
  · rintro ⟨hle, hcount, rfl⟩
    have hlength : (input.take countLength).length = 4 := List.length_take_of_le hle
    have hword : Bytes.ofWord 4 count.toNat = input.take countLength := by
      rw [hcount, countAt, ← hlength, Bytes.ofWord_toWord]
    rw [hword, behindCount, List.take_append_drop]

section Counted

variable {α β : Type} {entry : Reader α} {write : α → Bytes} {good : α → Prop}

theorem run_countedReader_eq_ok_iff {field : Field} {make : List α → β} {input : Bytes}
    {whole : β} :
    (countedReader entry field make).run input = .ok whole ↔
      countLength ≤ input.length ∧ ∃ values rest,
        entry.times (countAt input) (behindCount input) = .ok (values, rest) ∧
          make values.val = whole := by
  simp only [Reader.run_eq_ok, countedReader, Reader.bind_eq_ok, u32_eq_ok_countAt,
    Reader.pure_eq_ok]
  constructor
  · rintro ⟨rest, count, _, ⟨hle, hcount, rfl⟩, values, _, hvalues, hwhole, rfl⟩
    rw [← hcount]
    exact ⟨hle, values, _, hvalues, hwhole⟩
  · rintro ⟨hle, hentries⟩
    have hcount : (UInt32.ofNat (countAt input)).toNat = countAt input := by
      apply UInt32.toNat_ofNat_of_lt'
      have hlt := Bytes.toWord_lt (input.take countLength)
      rw [List.length_take_of_le hle] at hlt
      exact hlt
    rw [← hcount] at hentries
    obtain ⟨values, rest, hvalues, hwhole⟩ := hentries
    exact ⟨rest, _, _, ⟨hle, hcount, rfl⟩, values, rest, hvalues, hwhole, rfl⟩

theorem exists_run_countedReader_eq_ok_iff {field : Field} {make : List α → β} {input : Bytes} :
    (∃ whole, (countedReader entry field make).run input = .ok whole) ↔
      countLength ≤ input.length ∧
        entry.completed (countAt input) (behindCount input) = countAt input := by
  simp only [run_countedReader_eq_ok_iff, ← Reader.exists_times_eq_ok_iff]
  constructor
  · rintro ⟨whole, hle, values, rest, hvalues, -⟩
    exact ⟨hle, values, rest, hvalues⟩
  · rintro ⟨hle, values, rest, hvalues⟩
    exact ⟨_, hle, values, rest, hvalues, rfl⟩

theorem failsMalformed_countedReader (hfails : entry.FailsMalformed) (field : Field)
    (make : List α → β) : (countedReader entry field make).FailsMalformed :=
  (Reader.failsMalformed_u32 _).bind fun _ =>
  (hfails.times _).bind fun _ => Reader.failsMalformed_pure _

/-- Reading entries behind their count is bounded. -/
theorem isBounded_countedReader (hreads : entry.ReadsBack write good)
    (hfails : entry.FailsMalformed) (field : Field) {make : List α → β} {entries : β → List α}
    (hentries : ∀ values, entries (make values) = values) {minimum : Nat} (hpos : 0 < minimum)
    (hminimum : ∀ value, minimum ≤ (write value).length) :
    IsBounded (countedReader entry field make).run entries entry minimum := by
  have hcompleted : ∀ input, entry.completed (countAt input) (behindCount input) ≤
      (input.length - countLength) / minimum := by
    intro input
    rw [← List.length_drop]
    exact Reader.completed_le_div hreads hpos hminimum _ _
  have hlength : ∀ input whole, (countedReader entry field make).run input = .ok whole →
      (entries whole).length = countAt input := by
    intro input whole h
    obtain ⟨-, values, -, -, rfl⟩ := run_countedReader_eq_ok_iff.mp h
    rw [hentries, values.property]
  have hle : ∀ input whole, (countedReader entry field make).run input = .ok whole →
      (entries whole).length ≤ (input.length - countLength) / minimum := by
    intro input whole h
    -- All that the count says was completed.
    have hall := (exists_run_countedReader_eq_ok_iff.mp ⟨whole, h⟩).2
    rw [hlength input whole h, ← hall]
    exact hcompleted input
  refine ⟨hlength, hle, fun input whole h => ?_, hcompleted, fun input h => ?_,
    fun input => exists_run_countedReader_eq_ok_iff⟩
  · exact Nat.le_min.mpr ⟨Nat.le_of_eq (hlength input whole h), hle input whole h⟩
  · obtain hok | hfail := (failsMalformed_countedReader hfails field make).run_or input
    · exact absurd (exists_run_countedReader_eq_ok_iff.mp hok).2 (Nat.ne_of_lt h)
    · exact hfail

end Counted

/-! ## The payloads -/

namespace Ack

theorem failsMalformed_reader : reader.FailsMalformed :=
  Contact.failsMalformed_reader.bind fun _ =>
  (Reader.failsMalformed_u64 _).bind fun _ => Reader.failsMalformed_pure _

/-- **Acknowledgements** can always be written. -/
theorem isExact : IsExact decode (fun ack => .ok ack.encode) fun ack => ack.contact.IsCanonical := by
  have hreads : reader.ReadsBack encode fun ack => ack.contact.IsCanonical ∧ True := by
    simpa only [and_true] using readsBack_reader
  refine isExact_run hreads failsMalformed_reader fun ack wire => ?_
  rw [Except.ok.injEq, true_and, eq_comm]

end Ack

namespace Update

theorem failsMalformed_operationReader : operationReader.FailsMalformed := by
  refine (Reader.failsMalformed_u8 _).bind fun tag => ?_
  cases htag : UpdateOperation.ofByte tag with
  | ok operation => exact Reader.failsMalformed_pure operation
  | error cause =>
    apply Reader.failsMalformed_refuse
    simp only [UpdateOperation.ofByte] at htag
    split at htag
    · cases htag
    · split at htag
      · cases htag
      · obtain rfl := Except.error.inj htag
        rfl

theorem failsMalformed_reader : reader.FailsMalformed :=
  failsMalformed_operationReader.bind fun _ =>
  (Reader.failsMalformed_u16 _).bind fun _ =>
  (Reader.failsMalformed_take _ _).bind fun _ => Reader.failsMalformed_pure _

/-- **Updates** have no tags with two spellings, so each of them is canonical. -/
theorem isExact : IsExact decode encode fun _ => True := by
  refine isExact_run ?_ failsMalformed_reader fun _ _ => encode_eq_ok_iff
  simpa only [true_and] using readsBack_reader

end Update

namespace CacheQuery

theorem failsMalformed_keyReader : keyReader.FailsMalformed :=
  (Reader.failsMalformed_u64 _).bind fun _ =>
  Contact.failsMalformed_reader.bind fun _ => Reader.failsMalformed_pure _

theorem failsMalformed_reader : reader.FailsMalformed :=
  failsMalformed_countedReader failsMalformed_keyReader .queryCount mk

/-- **Queries** are canonical when their keys are. -/
theorem isExact :
    IsExact decode encode fun query => ∀ key ∈ query.keys, key.source.IsCanonical :=
  isExact_run readsBack_reader failsMalformed_reader fun _ _ => encode_eq_ok_iff

theorem le_length_encodeKey (key : Key) : 11 ≤ (encodeKey key).length := by
  rw [length_encodeKey, keyLength, Contact.encodedLength]
  omega

/-- A key takes eight bytes for its number and three for the shortest contact. -/
theorem isBounded : IsBounded decode keys keyReader 11 :=
  isBounded_countedReader readsBack_keyReader failsMalformed_keyReader .queryCount (fun _ => rfl)
    (by decide) le_length_encodeKey

end CacheQuery

namespace CacheAnswer

theorem encodeMessages_eq_ok_iff {messages : List Message} {wire : Bytes} :
    encodeMessages messages = .ok wire ↔
      (∀ message ∈ messages, message.Fits) ∧ wire = messages.flatMap Message.record := by
  constructor
  · intro h
    have hfits : ∀ message ∈ messages, message.Fits := by
      induction messages generalizing wire with
      | nil => exact nofun
      | cons message messages ih =>
        cases hfirst : message.encode with
        | error cause => simp [encodeMessages, hfirst, bind, Except.bind] at h
        | ok first =>
          cases hothers : encodeMessages messages with
          | error cause => simp [encodeMessages, hfirst, hothers, bind, Except.bind] at h
          | ok others =>
            exact List.forall_mem_cons.mpr ⟨(Message.encode_eq_ok_iff.mp hfirst).1, ih hothers⟩
    rw [encodeMessages_of_fits hfits, Except.ok.injEq] at h
    exact ⟨hfits, h.symm⟩
  · rintro ⟨hfits, rfl⟩
    exact encodeMessages_of_fits hfits

theorem encode_eq_ok_iff {answer : CacheAnswer} {wire : Bytes} :
    answer.encode = .ok wire ↔
      ((∀ message ∈ answer.messages, message.Fits) ∧ answer.messages.length ≤ maxEntryCount) ∧
        wire = answer.record := by
  constructor
  · intro h
    cases hmessages : encodeMessages answer.messages with
    | error cause =>
      simp only [encode, checkLength, hmessages] at h
      split at h <;> cases h
    | ok bytes =>
      simp only [encode, hmessages] at h
      obtain ⟨hlength, rfl⟩ := checkLength_eq_ok_iff.mp h
      obtain ⟨hfits, rfl⟩ := encodeMessages_eq_ok_iff.mp hmessages
      exact ⟨⟨hfits, hlength⟩, rfl⟩
  · rintro ⟨⟨hfits, hlength⟩, rfl⟩
    exact encode_of_fits hlength hfits

theorem failsMalformed_reader : reader.FailsMalformed :=
  failsMalformed_countedReader Message.failsMalformed_reader .responseCount mk

/-- **Answers** are canonical when their messages are. -/
theorem isExact : IsExact decode encode fun answer =>
    ∀ message ∈ answer.messages, message.IsCanonical := by
  refine isExact_run ?_ failsMalformed_reader fun _ _ => encode_eq_ok_iff
  simpa only [forall_and, imp_and, and_assoc] using readsBack_reader

theorem le_length_record (message : Message) : 22 ≤ message.record.length := by
  rw [Message.length_record, Message.encodedLength, Contact.encodedLength]
  omega

/-- A message takes nineteen bytes for its own fields and three for the shortest contact. -/
theorem isBounded : IsBounded decode messages Message.reader 22 :=
  isBounded_countedReader Message.readsBack_reader Message.failsMalformed_reader .responseCount
    (fun _ => rfl) (by decide) le_length_record

end CacheAnswer

namespace Reconciliation

/-- **Payloads are exact, and reading them is bounded.** An update, a query, an answer or an
acknowledgement is read from a byte string exactly when its tags are canonical, it can be written and
what is written stands at the front; any other byte string is malformed. A query or an answer that
was read has as many entries as its count says, and no more than one for every 11 or 22 bytes behind
the count, so the room that was set aside for them is enough. Whatever the count says, no more
entries than that are completed, and if they are fewer than it says, the byte string is malformed. -/
theorem payloads_exact_and_bounded :
    IsExact Update.decode Update.encode (fun _ => True) ∧
    IsExact CacheQuery.decode CacheQuery.encode
      (fun query => ∀ key ∈ query.keys, key.source.IsCanonical) ∧
    IsExact CacheAnswer.decode CacheAnswer.encode
      (fun answer => ∀ message ∈ answer.messages, message.IsCanonical) ∧
    IsExact Ack.decode (fun ack => .ok ack.encode) (fun ack => ack.contact.IsCanonical) ∧
    IsBounded CacheQuery.decode CacheQuery.keys CacheQuery.keyReader 11 ∧
    IsBounded CacheAnswer.decode CacheAnswer.messages Message.reader 22 :=
  ⟨Update.isExact, CacheQuery.isExact, CacheAnswer.isExact, Ack.isExact, CacheQuery.isBounded,
    CacheAnswer.isBounded⟩

/-- A count of four billion with nothing behind it is refused at the first entry. -/
example : CacheQuery.decode [255, 255, 255, 255] = .error (.truncated .querySequence 8 0) := by
  decide +kernel

end Reconciliation

end RadioGossip
