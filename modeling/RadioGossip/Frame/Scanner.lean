import RadioGossip.Frame.Wrapping

/-!
# Scanning a stream for frames

A **scanner** takes a stream byte by byte and never fails: what is no frame is dropped, and the
next start marker begins afresh.

* A start marker opens a frame wherever it stands, also inside a frame, which is then lost.
* An end marker closes an open frame and is ignored elsewhere.
* An escape counts only inside a frame, or inside the rest of one that was given up.
* A frame whose payload exceeds the bound is given up, and its rest is skipped.

A stream comes in chunks. One call of `decode` stops after the first frame it finds; `drain` calls
it again on what is left until it finds none. What the calls find together is what the bytes one by
one complete.
-/

namespace RadioGossip

namespace Frame

/-- Where in the stream a scanner stands. -/
inductive Phase where
  /-- Outside every frame. -/
  | idle
  /-- Inside a frame, with the payload so far, and whether the last byte was an escape. -/
  | inside (held : Array UInt8) (escaped : Bool)
  /-- In the rest of a frame that was given up, and whether the last byte was an escape. -/
  | skipping (escaped : Bool)
  deriving DecidableEq, Repr

/-- A scanner for frames within a bound. -/
structure Scanner where
  bound : Nat
  phase : Phase := .idle
  deriving DecidableEq, Repr

namespace Scanner

/-- A scanner at the start of a stream. -/
def new (bound : Nat) : Scanner := ⟨bound, .idle⟩

/-- The longest payload that is accepted: the bound without the two markers. -/
def payloadLimit (scanner : Scanner) : Nat := scanner.bound - 2

/-- Whether a frame is open. -/
def isActive (scanner : Scanner) : Bool :=
  match scanner.phase with
  | .inside .. => true
  | _ => false

/-- Whether the rest of a frame is being skipped. -/
def isSkipping (scanner : Scanner) : Bool :=
  match scanner.phase with
  | .skipping _ => true
  | _ => false

/-- Whether the last byte was an escape that counts. -/
def isEscaped (scanner : Scanner) : Bool :=
  match scanner.phase with
  | .idle => false
  | .inside _ escaped => escaped
  | .skipping escaped => escaped

/-- The payload held so far. -/
def held (scanner : Scanner) : Bytes :=
  match scanner.phase with
  | .inside held _ => held.toList
  | _ => []

/-- A payload byte goes into an open frame, or makes it too long. -/
def keep (limit : Nat) (held : Array UInt8) (byte : UInt8) : Phase :=
  if limit ≤ held.size then .skipping false else .inside (held.push byte) false

/-- What one byte does, and the payload it completes, if it does. -/
def advance (limit : Nat) : Phase → UInt8 → Phase × Option Bytes
  | .idle, byte => if byte = startMarker then (.inside #[] false, none) else (.idle, none)
  | .inside held true, byte => (keep limit held byte, none)
  | .inside held false, byte =>
    if byte = escape then (.inside held true, none)
    else if byte = startMarker then (.inside #[] false, none)
    else if byte = endMarker then (.idle, some held.toList)
    else (keep limit held byte, none)
  | .skipping true, _ => (.skipping false, none)
  | .skipping false, byte =>
    if byte = escape then (.skipping true, none)
    else if byte = startMarker then (.inside #[] false, none)
    else if byte = endMarker then (.idle, none)
    else (.skipping false, none)

/-- Takes one byte. -/
def step : Scanner → UInt8 → Scanner × Option Bytes
  | ⟨bound, phase⟩, byte =>
    let (phase, frame) := advance (bound - 2) phase byte
    (⟨bound, phase⟩, frame)

/-- Takes bytes up to the end of the first frame: its payload, and the bytes after it. Without a
frame every byte is taken. -/
def decode (scanner : Scanner) : Bytes → Scanner × Option Bytes × Bytes
  | [] => (scanner, none, [])
  | byte :: rest =>
    match scanner.step byte with
    | (scanner, some frame) => (scanner, some frame, rest)
    | (scanner, none) => scanner.decode rest

/-- A call that finds a frame has taken the byte that ends it. -/
theorem length_rest_of_some {scanner moved : Scanner} {input rest frame : Bytes}
    (found : scanner.decode input = (moved, some frame, rest)) : rest.length < input.length := by
  induction input generalizing scanner with
  | nil => simp [decode] at found
  | cons byte input ih =>
    simp only [decode] at found
    split at found
    · obtain ⟨-, -, rfl⟩ := found
      exact Nat.lt_succ_self _
    · exact Nat.lt_succ_of_lt (ih found)

/-- A call that finds no frame leaves nothing behind. -/
theorem decode_rest_of_none {scanner : Scanner} {input : Bytes}
    (none_found : (scanner.decode input).2.1 = none) : (scanner.decode input).2.2 = [] := by
  induction input generalizing scanner with
  | nil => rfl
  | cons byte rest ih =>
    simp only [decode] at none_found ⊢
    split at none_found
    · cases none_found
    · exact ih none_found

/-- Decodes what is left until nothing comes, which takes every byte: the payloads that came. -/
def drain (scanner : Scanner) (input : Bytes) : Scanner × List Bytes :=
  match _found : scanner.decode input with
  | (scanner, none, _) => (scanner, [])
  | (scanner, some frame, rest) =>
    let (scanner, frames) := scanner.drain rest
    (scanner, frame :: frames)
termination_by input.length
decreasing_by exact length_rest_of_some _found

/-- Takes chunk after chunk. -/
def drainAll (scanner : Scanner) : List Bytes → Scanner × List Bytes
  | [] => (scanner, [])
  | chunk :: chunks =>
    let (scanner, frames) := scanner.drain chunk
    let (scanner, others) := scanner.drainAll chunks
    (scanner, frames ++ others)

/-! ## Byte by byte -/

/-- Draining goes on behind the first frame. -/
theorem drain_eq_decode (scanner : Scanner) (input : Bytes) :
    scanner.drain input = match scanner.decode input with
      | (scanner, none, _) => (scanner, [])
      | (scanner, some frame, rest) =>
        ((scanner.drain rest).1, frame :: (scanner.drain rest).2) := by
  rw [drain]
  split
  · next found => rw [found]
  · next found => rw [found]

theorem drain_nil (scanner : Scanner) : scanner.drain [] = (scanner, []) :=
  scanner.drain_eq_decode []

/-- One byte, with the payload that it completes, and then the others. -/
theorem drain_cons (bound : Nat) (phase : Phase) (byte : UInt8) (rest : Bytes) :
    drain ⟨bound, phase⟩ (byte :: rest) =
      ((drain ⟨bound, (advance (bound - 2) phase byte).1⟩ rest).1,
        (advance (bound - 2) phase byte).2.toList ++
          (drain ⟨bound, (advance (bound - 2) phase byte).1⟩ rest).2) := by
  rw [drain_eq_decode, decode, step]
  rcases advance (bound - 2) phase byte with ⟨next, none | frame⟩
  · exact (drain_eq_decode ⟨bound, next⟩ rest).symm
  · rfl

/-- Where a stream is cut makes no difference. -/
theorem drain_append (scanner : Scanner) (first second : Bytes) :
    scanner.drain (first ++ second) =
      (((scanner.drain first).1.drain second).1,
        (scanner.drain first).2 ++ ((scanner.drain first).1.drain second).2) := by
  induction first generalizing scanner with
  | nil => rw [List.nil_append, drain_nil, List.nil_append]
  | cons byte rest ih =>
    obtain ⟨bound, phase⟩ := scanner
    rw [List.cons_append, drain_cons, drain_cons, ih, List.append_assoc]

end Scanner

end Frame

end RadioGossip
