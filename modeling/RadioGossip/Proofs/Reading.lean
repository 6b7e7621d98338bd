import Mathlib.Algebra.Group.Nat.Defs
import RadioGossip.Wire.Reader

/-!
# What readers accept

A reader **reads back** a way of writing when it takes `write value ++ rest` apart into `value` and
`rest` for every good value, and takes nothing else apart. A format that is read back is
unambiguous: no byte string begins with two records, and no record has a second spelling.

The primitive readers read back the little-endian words and the byte strings of a known length, and
`times` reads back one record after the other. A reader of a larger record is a row of those, so
`bind_eq_ok` and the equations below turn its success into equations between byte strings.

The second half is about failure: a reader only ever fails because what it was given is
**malformed**. That a field is too long is said by writers alone.
-/

namespace RadioGossip

/-! ## Words -/

namespace Bytes

/-- A word that has room for its number reads back as that number. -/
theorem toWord_ofWord {width value : Nat} (fits : value < 256 ^ width) :
    toWord (ofWord width value) = value := by
  induction width generalizing value with
  | zero => simp [ofWord, toWord] at fits ⊢; omega
  | succ width ih =>
    have fits' : value / 256 < 256 ^ width := by
      rw [Nat.pow_succ] at fits
      exact Nat.div_lt_of_lt_mul (by omega)
    simp only [ofWord, toWord, ih fits', UInt8.toNat_ofNat']
    omega

theorem toWord_lt (digits : Bytes) : toWord digits < 256 ^ digits.length := by
  induction digits with
  | nil => simp [toWord]
  | cons digit digits ih =>
    have := digit.toNat_lt
    simp only [toWord, List.length_cons, Nat.pow_succ]
    omega

end Bytes

namespace Reader

variable {α β : Type}

/-! ## Success -/

/-- The reader takes off the front exactly what `write` puts there, and that for good values
only. -/
def ReadsBack (reader : Reader α) (write : α → Bytes) (good : α → Prop) : Prop :=
  ∀ (input rest : Bytes) (value : α),
    reader input = .ok (value, rest) ↔ good value ∧ input = write value ++ rest

theorem ReadsBack.eq_ok {reader : Reader α} {write : α → Bytes} {good : α → Prop}
    (h : reader.ReadsBack write good) {input rest : Bytes} {value : α} :
    reader input = .ok (value, rest) ↔ good value ∧ input = write value ++ rest :=
  h input rest value

@[simp] theorem pure_eq_ok {value result : α} {input rest : Bytes} :
    (pure value : Reader α) input = .ok (result, rest) ↔ value = result ∧ input = rest := by
  simp

theorem take_eq_ok {field : Field} {count : Nat} {input rest : Bytes}
    {taken : { taken : Bytes // taken.length = count }} :
    take field count input = .ok (taken, rest) ↔ input = taken.val ++ rest := by
  simp only [take, List.splitAt_eq]
  split
  · next exact =>
    simp only [Except.ok.injEq, Prod.mk.injEq, Subtype.ext_iff]
    constructor
    · rintro ⟨h, rfl⟩
      rw [← h, List.take_append_drop]
    · intro h
      rw [h, List.take_left' taken.property, List.drop_left' taken.property]
      exact ⟨rfl, rfl⟩
  · next short =>
    refine ⟨nofun, fun h => absurd ?_ short⟩
    rw [h, List.take_left' taken.property, taken.property]

theorem word_eq_ok {field : Field} {width value : Nat} {input rest : Bytes} :
    word field width input = .ok (value, rest) ↔
      value < 256 ^ width ∧ input = Bytes.ofWord width value ++ rest := by
  simp only [word, bind_eq_ok, take_eq_ok, pure_eq_ok]
  constructor
  · rintro ⟨⟨digits, hlen⟩, left, rfl, rfl, rfl⟩
    subst hlen
    exact ⟨Bytes.toWord_lt digits, by rw [Bytes.ofWord_toWord]⟩
  · rintro ⟨hlt, rfl⟩
    exact ⟨⟨Bytes.ofWord width value, Bytes.length_ofWord ..⟩, rest, rfl,
      Bytes.toWord_ofWord hlt, rfl⟩

theorem u8_eq_ok {field : Field} {byte : UInt8} {input rest : Bytes} :
    u8 field input = .ok (byte, rest) ↔ input = byte :: rest := by
  simp only [u8, bind_eq_ok, word_eq_ok, pure_eq_ok]
  constructor
  · rintro ⟨value, left, ⟨hlt, rfl⟩, rfl, rfl⟩
    simp [Bytes.ofWord]
  · rintro rfl
    exact ⟨byte.toNat, rest, ⟨byte.toNat_lt, by simp [Bytes.ofWord]⟩, by simp, rfl⟩

theorem u16_eq_ok {field : Field} {value : UInt16} {input rest : Bytes} :
    u16 field input = .ok (value, rest) ↔ input = Bytes.ofWord 2 value.toNat ++ rest := by
  simp only [u16, bind_eq_ok, word_eq_ok, pure_eq_ok]
  constructor
  · rintro ⟨number, left, ⟨hlt, rfl⟩, rfl, rfl⟩
    have hnumber : (UInt16.ofNat number).toNat = number := UInt16.toNat_ofNat_of_lt' hlt
    rw [hnumber]
  · rintro rfl
    exact ⟨value.toNat, rest, ⟨value.toNat_lt, rfl⟩, by simp, rfl⟩

theorem u32_eq_ok {field : Field} {value : UInt32} {input rest : Bytes} :
    u32 field input = .ok (value, rest) ↔ input = Bytes.ofWord 4 value.toNat ++ rest := by
  simp only [u32, bind_eq_ok, word_eq_ok, pure_eq_ok]
  constructor
  · rintro ⟨number, left, ⟨hlt, rfl⟩, rfl, rfl⟩
    have hnumber : (UInt32.ofNat number).toNat = number := UInt32.toNat_ofNat_of_lt' hlt
    rw [hnumber]
  · rintro rfl
    exact ⟨value.toNat, rest, ⟨value.toNat_lt, rfl⟩, by simp, rfl⟩

theorem u64_eq_ok {field : Field} {value : UInt64} {input rest : Bytes} :
    u64 field input = .ok (value, rest) ↔ input = Bytes.ofWord 8 value.toNat ++ rest := by
  simp only [u64, bind_eq_ok, word_eq_ok, pure_eq_ok]
  constructor
  · rintro ⟨number, left, ⟨hlt, rfl⟩, rfl, rfl⟩
    have hnumber : (UInt64.ofNat number).toNat = number := UInt64.toNat_ofNat_of_lt' hlt
    rw [hnumber]
  · rintro rfl
    exact ⟨value.toNat, rest, ⟨value.toNat_lt, rfl⟩, by simp, rfl⟩

/-- **Repetition.** Reading with one reader a number of times reads back the records written one
after the other. -/
theorem times_eq_ok {reader : Reader α} {write : α → Bytes} {good : α → Prop}
    (h : reader.ReadsBack write good) {count : Nat} {input rest : Bytes}
    {values : { values : List α // values.length = count }} :
    times reader count input = .ok (values, rest) ↔
      (∀ value ∈ values.val, good value) ∧ input = values.val.flatMap write ++ rest := by
  induction count generalizing input with
  | zero =>
    obtain ⟨values, hlen⟩ := values
    obtain rfl := List.eq_nil_of_length_eq_zero hlen
    simp [times]
  | succ count ih =>
    obtain ⟨values, hlen⟩ := values
    obtain ⟨value, values, rfl⟩ := List.exists_cons_of_length_eq_add_one hlen
    have hlen' : values.length = count := by simpa using hlen
    simp only [times, bind_eq_ok, pure_eq_ok, h.eq_ok, Subtype.ext_iff, List.cons.injEq]
    constructor
    · rintro ⟨_, middle, ⟨hgood, rfl⟩, others, left, hothers, ⟨rfl, rfl⟩, rfl⟩
      obtain ⟨hall, rfl⟩ := ih.mp hothers
      exact ⟨List.forall_mem_cons.mpr ⟨hgood, hall⟩, by simp⟩
    · rintro ⟨hall, rfl⟩
      obtain ⟨hgood, hall⟩ := List.forall_mem_cons.mp hall
      exact ⟨value, values.flatMap write ++ rest, ⟨hgood, by simp⟩, ⟨values, hlen'⟩, rest,
        ih.mpr ⟨hall, rfl⟩, ⟨rfl, rfl⟩, rfl⟩

theorem run_eq_ok {reader : Reader α} {input : Bytes} {value : α} :
    reader.run input = .ok value ↔ ∃ rest, reader input = .ok (value, rest) := by
  simp only [run]
  cases reader input with
  | error cause => simp [Except.map]
  | ok result =>
    obtain ⟨read, rest⟩ := result
    simp [Except.map]

/-- Running a reader that reads back finds the record that stands at the front. -/
theorem ReadsBack.run_eq_ok_iff {reader : Reader α} {write : α → Bytes} {good : α → Prop}
    (h : reader.ReadsBack write good) {input : Bytes} {value : α} :
    reader.run input = .ok value ↔ good value ∧ write value <+: input := by
  simp only [run_eq_ok, h.eq_ok]
  constructor
  · rintro ⟨rest, hgood, rfl⟩
    exact ⟨hgood, List.prefix_append ..⟩
  · rintro ⟨hgood, rest, rfl⟩
    exact ⟨rest, hgood, rfl⟩

/-! ## Failure -/

/-- The reader fails only on input that is malformed. -/
def FailsMalformed (reader : Reader α) : Prop :=
  ∀ (input : Bytes) (cause : WireError), reader input = .error cause → cause.isMalformed = true

theorem failsMalformed_pure (value : α) : FailsMalformed (pure value) := by
  intro input cause h
  cases h

theorem failsMalformed_refuse {cause : WireError} (h : cause.isMalformed = true) :
    FailsMalformed (refuse cause : Reader α) := by
  intro input cause' h'
  obtain rfl := Except.error.inj h'
  exact h

theorem FailsMalformed.bind {first : Reader α} {next : α → Reader β} (h : FailsMalformed first)
    (h' : ∀ value, FailsMalformed (next value)) : FailsMalformed (first >>= next) := by
  intro input cause hfail
  rw [bind_apply] at hfail
  split at hfail
  · exact h' _ _ _ hfail
  · next hfirst =>
    obtain rfl := Except.error.inj hfail
    exact h _ _ hfirst

theorem failsMalformed_take (field : Field) (count : Nat) : FailsMalformed (take field count) := by
  intro input cause h
  simp only [take] at h
  split at h
  · cases h
  · obtain rfl := Except.error.inj h
    rfl

theorem failsMalformed_word (field : Field) (width : Nat) : FailsMalformed (word field width) :=
  (failsMalformed_take field width).bind fun _ => failsMalformed_pure _

theorem failsMalformed_u8 (field : Field) : FailsMalformed (u8 field) :=
  (failsMalformed_word field 1).bind fun _ => failsMalformed_pure _

theorem failsMalformed_u16 (field : Field) : FailsMalformed (u16 field) :=
  (failsMalformed_word field 2).bind fun _ => failsMalformed_pure _

theorem failsMalformed_u32 (field : Field) : FailsMalformed (u32 field) :=
  (failsMalformed_word field 4).bind fun _ => failsMalformed_pure _

theorem failsMalformed_u64 (field : Field) : FailsMalformed (u64 field) :=
  (failsMalformed_word field 8).bind fun _ => failsMalformed_pure _

theorem FailsMalformed.times {reader : Reader α} (h : FailsMalformed reader) (count : Nat) :
    FailsMalformed (reader.times count) := by
  induction count with
  | zero => exact failsMalformed_pure _
  | succ count ih => exact h.bind fun _ => ih.bind fun _ => failsMalformed_pure _

/-- Whatever the input, such a reader finds a record or calls the input malformed. -/
theorem FailsMalformed.run_or {reader : Reader α} (h : FailsMalformed reader) (input : Bytes) :
    (∃ value, reader.run input = .ok value) ∨
      ∃ cause, reader.run input = .error cause ∧ cause.isMalformed = true := by
  simp only [run]
  cases hread : reader input with
  | ok result => exact .inl ⟨result.1, rfl⟩
  | error cause => exact .inr ⟨cause, rfl, h _ _ hread⟩

end Reader

end RadioGossip
