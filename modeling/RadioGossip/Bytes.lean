/-!
# Byte strings and little-endian words

Everything that travels between stations is a **byte string**, a list of bytes. Numbers are
written into it as **little-endian words** of a fixed width: base-256 digits, the least
significant first. Writing a word that fits its width and reading it back changes nothing, and
every byte string of that width is the word of exactly one number.
-/

namespace RadioGossip

/-- A byte string. -/
abbrev Bytes := List UInt8

namespace Bytes

/-- The `width` lowest base-256 digits of a number, least significant first. -/
def ofWord : (width : Nat) → (value : Nat) → Bytes
  | 0, _ => []
  | width + 1, value => UInt8.ofNat value :: ofWord width (value / 256)

/-- The number whose base-256 digits these are, least significant first. -/
def toWord : Bytes → Nat
  | [] => 0
  | digit :: digits => digit.toNat + 256 * toWord digits

@[simp] theorem length_ofWord (width value : Nat) : (ofWord width value).length = width := by
  induction width generalizing value with
  | zero => rfl
  | succ width ih => simp [ofWord, ih]

theorem ofWord_toWord (digits : Bytes) : ofWord digits.length (toWord digits) = digits := by
  induction digits with
  | nil => rfl
  | cons digit digits ih =>
    have low : (digit.toNat + 256 * toWord digits) / 256 = toWord digits := by
      have := digit.toNat_lt
      omega
    have head : UInt8.ofNat (digit.toNat + 256 * toWord digits) = digit := by
      apply UInt8.toNat_inj.mp
      have := digit.toNat_lt
      simp only [UInt8.toNat_ofNat']
      omega
    simp only [List.length_cons, ofWord, toWord, low, head, ih]

end Bytes

end RadioGossip
