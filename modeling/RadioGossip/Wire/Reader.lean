import RadioGossip.Bytes
import RadioGossip.Wire.Error

/-!
# Reading wire records

A **reader** takes one value off the front of a byte string and hands back what it left, or says
why there is no such value. Readers are sequenced as a monad: the next one starts where the last
one stopped, and the first refusal ends the reading. The primitive readers are

* **take** — exactly `n` bytes, with the proof that there are `n` of them;
* **words** — little-endian numbers of one, two, four or eight bytes;
* **times** — one reader `n` times over.
-/

namespace RadioGossip

/-- A reader takes a value off the front of a byte string and returns it with the rest. -/
def Reader (α : Type) : Type := Bytes → Except WireError (α × Bytes)

namespace Reader

variable {α β : Type}

/-- Reads nothing. -/
protected def pure (value : α) : Reader α := fun input => .ok (value, input)

/-- Reads with `first`, then goes on where it stopped. -/
protected def bind (first : Reader α) (next : α → Reader β) : Reader β := fun input =>
  match first input with
  | .ok (value, rest) => next value rest
  | .error cause => .error cause

instance : Monad Reader where
  pure := Reader.pure
  bind := Reader.bind

/-- Refuses whatever stands there. -/
def refuse (cause : WireError) : Reader α := fun _ => .error cause

/-- Takes exactly `count` bytes, or nothing at all. -/
def take (field : Field) (count : Nat) : Reader { taken : Bytes // taken.length = count } :=
  fun input =>
    let (taken, rest) := input.splitAt count
    if exact : taken.length = count then .ok (⟨taken, exact⟩, rest)
    else .error (.truncated field count input.length)

/-- A little-endian number of `width` bytes. -/
def word (field : Field) (width : Nat) : Reader Nat := do
  let digits ← take field width
  return Bytes.toWord digits.val

/-- One byte. -/
def u8 (field : Field) : Reader UInt8 := return UInt8.ofNat (← word field 1)

/-- A word of two bytes. -/
def u16 (field : Field) : Reader UInt16 := return UInt16.ofNat (← word field 2)

/-- A word of four bytes. -/
def u32 (field : Field) : Reader UInt32 := return UInt32.ofNat (← word field 4)

/-- A word of eight bytes. -/
def u64 (field : Field) : Reader UInt64 := return UInt64.ofNat (← word field 8)

/-- Reads with the same reader `count` times. -/
def times (reader : Reader α) : (count : Nat) → Reader { values : List α // values.length = count }
  | 0 => return ⟨[], rfl⟩
  | count + 1 => do
    let value ← reader
    let values ← times reader count
    return ⟨value :: values.val, by simp [values.property]⟩

/-- Reads a value from the front of a byte string. Bytes after it are ignored. -/
def run (reader : Reader α) (input : Bytes) : Except WireError α :=
  (reader input).map Prod.fst

/-! ## How readers unfold -/

@[simp] theorem pure_apply (value : α) (input : Bytes) :
    (pure value : Reader α) input = .ok (value, input) := rfl

@[simp] theorem refuse_apply (cause : WireError) (input : Bytes) :
    (refuse cause : Reader α) input = .error cause := rfl

theorem bind_apply (first : Reader α) (next : α → Reader β) (input : Bytes) :
    (first >>= next) input = match first input with
      | .ok (value, rest) => next value rest
      | .error cause => .error cause := rfl

/-- Two readings in a row succeed exactly when the second succeeds where the first one stopped. -/
theorem bind_eq_ok {first : Reader α} {next : α → Reader β} {input rest : Bytes} {value : β} :
    (first >>= next) input = .ok (value, rest) ↔
      ∃ middle left, first input = .ok (middle, left) ∧ next middle left = .ok (value, rest) := by
  rw [bind_apply]
  cases first input with
  | error cause => simp
  | ok result =>
    obtain ⟨middle, left⟩ := result
    refine ⟨fun h => ⟨middle, left, rfl, h⟩, ?_⟩
    rintro ⟨_, _, h, h'⟩
    cases h
    exact h'

end Reader

end RadioGossip
