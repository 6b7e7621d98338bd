import RadioGossip.Bytes

/-!
# Text as bytes

Text travels as UTF-8. A byte string that is valid UTF-8 stands for exactly one text. Any other
byte string is shown **lossily**: every maximal piece that begins a character but does not finish
it becomes one replacement character, and so does every byte that can begin none.
-/

namespace RadioGossip

namespace Text

/-- The UTF-8 bytes of a text. -/
def utf8 (text : String) : Bytes := text.toUTF8.data.toList

/-- The text whose UTF-8 bytes these are, if they are valid UTF-8. -/
def ofUtf8? (bytes : Bytes) : Option String := String.fromUTF8? ⟨bytes.toArray⟩

theorem ofUtf8?_utf8 (text : String) : ofUtf8? (utf8 text) = some text := by
  simp only [ofUtf8?, utf8, Array.toArray_toList, String.fromUTF8?, String.toUTF8_eq_toByteArray]
  exact dif_pos text.isValidUTF8

theorem utf8_of_ofUtf8? {bytes : Bytes} {text : String} (valid : ofUtf8? bytes = some text) :
    utf8 text = bytes := by
  simp only [ofUtf8?, String.fromUTF8?] at valid
  split at valid
  · obtain rfl := Option.some.inj valid
    simp [utf8, String.fromUTF8]
  · cases valid

theorem length_utf8 (text : String) : (utf8 text).length = text.utf8ByteSize := by
  rw [utf8, Array.length_toList]
  rfl

/-! ## Bytes that are not text -/

/-- What the first byte of a character announces: the bits it contributes, how many continuation
bytes follow, and the bounds of the first of them. The bounds keep out overlong forms, surrogates
and everything past the last code point. -/
structure Lead where
  bits : Nat
  more : Nat
  low : UInt8
  high : UInt8

/-- The announcement of a first byte, if it can begin a character. -/
def lead? (byte : UInt8) : Option Lead :=
  if byte < 0x80 then some ⟨byte.toNat, 0, 0x80, 0xBF⟩
  else if byte < 0xC2 then none
  else if byte < 0xE0 then some ⟨byte.toNat % 32, 1, 0x80, 0xBF⟩
  else if byte = 0xE0 then some ⟨0, 2, 0xA0, 0xBF⟩
  else if byte = 0xED then some ⟨13, 2, 0x80, 0x9F⟩
  else if byte < 0xF0 then some ⟨byte.toNat % 16, 2, 0x80, 0xBF⟩
  else if byte = 0xF0 then some ⟨0, 3, 0x90, 0xBF⟩
  else if byte < 0xF4 then some ⟨byte.toNat % 8, 3, 0x80, 0xBF⟩
  else if byte = 0xF4 then some ⟨4, 3, 0x80, 0x8F⟩
  else none

/-- Adds the continuation bytes of a character to the bits read so far. There is no value when one
of them is missing; what is left then starts at the byte that did not fit. -/
def continued (bits : Nat) : (more : Nat) → (low high : UInt8) → Bytes → Option Nat × Bytes
  | 0, _, _, rest => (some bits, rest)
  | _ + 1, _, _, [] => (none, [])
  | more + 1, low, high, byte :: rest =>
    if low ≤ byte ∧ byte ≤ high then
      continued (bits * 64 + byte.toNat % 64) more 0x80 0xBF rest
    else (none, byte :: rest)

theorem length_continued_le (bits more : Nat) (low high : UInt8) (bytes : Bytes) :
    (continued bits more low high bytes).2.length ≤ bytes.length := by
  induction bytes generalizing bits more low high with
  | nil => cases more <;> simp [continued]
  | cons byte rest ih =>
    cases more with
    | zero => simp [continued]
    | succ more =>
      simp only [continued]
      split
      · exact Nat.le_trans (ih ..) (by simp)
      · simp

/-- The characters of a byte string, with a replacement character for each piece that is none. -/
def lossyChars : Bytes → List Char
  | [] => []
  | byte :: rest =>
    match lead? byte with
    | none => '\uFFFD' :: lossyChars rest
    | some lead =>
      let character := continued lead.bits lead.more lead.low lead.high rest
      (character.1.map Char.ofNat).getD '\uFFFD' :: lossyChars character.2
termination_by bytes => bytes.length
decreasing_by
  · simp
  · exact Nat.lt_succ_of_le (length_continued_le ..)

theorem length_lossyChars_le (bytes : Bytes) : (lossyChars bytes).length ≤ bytes.length := by
  fun_induction lossyChars bytes with
  | case1 => exact Nat.le_refl 0
  | case2 byte rest hlead ih =>
    simp only [List.length_cons]
    omega
  | case3 byte rest lead hlead character ih =>
    have hrest := length_continued_le lead.bits lead.more lead.low lead.high rest
    simp only [List.length_cons]
    exact Nat.succ_le_succ (Nat.le_trans ih hrest)

/-- The text of a byte string: itself when it is valid UTF-8, and else the lossy reading. -/
def ofBytes (bytes : Bytes) : String :=
  match ofUtf8? bytes with
  | some text => text
  | none => String.ofList (lossyChars bytes)

theorem ofBytes_utf8 (text : String) : ofBytes (utf8 text) = text := by
  rw [ofBytes, ofUtf8?_utf8]

/-- A byte string is shown by at most four bytes for each of its own. -/
theorem utf8ByteSize_ofBytes_le (bytes : Bytes) :
    (ofBytes bytes).utf8ByteSize ≤ 4 * bytes.length := by
  have hchars : ∀ cs : List Char, (String.ofList cs).utf8ByteSize ≤ 4 * cs.length := by
    intro cs
    induction cs with
    | nil => exact Nat.le_refl 0
    | cons c cs ih =>
      have hc := c.utf8Size_le_four
      rw [String.ofList_cons, String.utf8ByteSize_append, String.utf8ByteSize_singleton,
        List.length_cons]
      omega
  unfold ofBytes
  split
  · next text htext =>
    rw [← length_utf8, utf8_of_ofUtf8? htext]
    omega
  · exact Nat.le_trans (hchars _) (Nat.mul_le_mul_left 4 (length_lossyChars_le bytes))

end Text

end RadioGossip
