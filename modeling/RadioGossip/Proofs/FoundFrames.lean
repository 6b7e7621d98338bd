import RadioGossip.Proofs.Framing

/-!
# The frames that are found

A scanner takes any stream whatever. What it gives back as a payload does stand in the stream: a
start marker, then bytes that **spell** the payload, each by itself or behind an escape, then an end
marker. The frames it finds stand one behind the other in the order in which it finds them, and it
makes no difference to them in which chunks the stream comes.

What a scanner remembers can be told in four **registers**, which a byte changes by simple rules: is
a frame open, is the rest of one being skipped, does an escape wait for its byte, and what does the
open frame hold. The rules by themselves do not keep the registers from contradicting each other. On
a stream that is read from its start they never do.
-/

namespace RadioGossip

namespace Frame

/-! ## Frames in a stream -/

/-- The bytes spell the payload: a byte that is not reserved stands for itself, and any byte may
stand behind an escape. -/
inductive Spells : Bytes → Bytes → Prop where
  | nil : Spells [] []
  | plain {byte : UInt8} {wire payload : Bytes} (h : isReserved byte = false) :
    Spells wire payload → Spells (byte :: wire) (byte :: payload)
  | escaped (byte : UInt8) {wire payload : Bytes} :
    Spells wire payload → Spells (escape :: byte :: wire) (byte :: payload)

/-- The bytes are a frame of the payload. -/
def IsFrameOf (wire payload : Bytes) : Prop :=
  ∃ body, Spells body payload ∧ wire = startMarker :: (body ++ [endMarker])

/-- The stream holds frames of these payloads, one behind the other. Before, between and after them
there may be anything. -/
inductive HoldsFrames : Bytes → List Bytes → Prop where
  | none (gap : Bytes) : HoldsFrames gap []
  | cons (gap : Bytes) {wire payload rest : Bytes} {payloads : List Bytes} :
    IsFrameOf wire payload → HoldsFrames rest payloads →
      HoldsFrames (gap ++ (wire ++ rest)) (payload :: payloads)

theorem Spells.append {wire payload wire' payload' : Bytes} (h : Spells wire payload)
    (h' : Spells wire' payload') : Spells (wire ++ wire') (payload ++ payload') := by
  induction h with
  | nil => exact h'
  | plain hreserved _ ih => exact .plain hreserved ih
  | escaped byte _ ih => exact .escaped byte ih

/-- The bytes taken so far end in what is open: a start marker and what spells the payload that is
held, which is within the limit, with an escape behind it if that waits for its byte. -/
def Phase.IsOpen (limit : Nat) (taken : Bytes) : Phase → Prop
  | .inside held escaped => held.size ≤ limit ∧ ∃ gap body, Spells body held.toList ∧
      taken = gap ++ startMarker :: (body ++ if escaped then [escape] else [])
  | _ => True

namespace Scanner

variable {limit : Nat} {taken : Bytes} {phase : Phase}

/-- What a byte led to goes on with what is open, or it is a frame that ends with this byte. -/
def IsFound (limit : Nat) (taken : Bytes) : Phase × Option Bytes → Prop
  | (phase, none) => phase.IsOpen limit taken
  | (phase, some payload) => phase = .idle ∧ payload.length ≤ limit ∧
      ∃ gap wire, taken = gap ++ wire ∧ IsFrameOf wire payload

/-- A start marker is open with nothing held. -/
theorem isFound_start (taken : Bytes) :
    IsFound limit (taken ++ [startMarker]) (.inside #[] false, none) :=
  ⟨Nat.zero_le limit, taken, [], .nil, rfl⟩

/-- A byte that is kept goes on with what is open, with all that spells it. -/
theorem isFound_keep {body token : Bytes} {held : Array UInt8} {byte : UInt8} (gap : Bytes)
    (hbody : Spells body held.toList) (htoken : Spells token [byte]) :
    IsFound limit (gap ++ startMarker :: (body ++ token)) (keep limit held byte, none) := by
  rw [keep]
  split
  · trivial
  · next hroom =>
    refine ⟨?_, gap, body ++ token, ?_, by simp⟩
    · rw [Array.size_push]
      omega
    · rw [Array.toList_push]
      exact hbody.append htoken

/-- **One byte** goes on with what is open, or it ends a frame. -/
theorem isFound_advance (h : phase.IsOpen limit taken) (byte : UInt8) :
    IsFound limit (taken ++ [byte]) (advance limit phase byte) := by
  cases phase with
  | idle =>
    simp only [advance]
    split
    · next hstart => exact hstart ▸ isFound_start taken
    · trivial
  | inside held escaped =>
    obtain ⟨hsize, gap, body, hbody, rfl⟩ := h
    cases escaped with
    | true =>
      have hfound : IsFound limit _ _ := isFound_keep gap hbody (.escaped byte .nil)
      simpa [advance] using hfound
    | false =>
      simp only [advance, Bool.false_eq_true, if_false, List.append_nil]
      split
      · next hescape => exact ⟨hsize, gap, body, hbody, by simp [hescape]⟩
      split
      · next hstart => exact hstart.symm ▸ isFound_start _
      split
      · next hend =>
        refine ⟨rfl, by simpa using hsize, gap, startMarker :: (body ++ [endMarker]), ?_, body,
          hbody, rfl⟩
        simp [hend]
      · next hescape hstart hend =>
        have hplain : isReserved byte = false := by simp [isReserved, hescape, hstart, hend]
        have hfound : IsFound limit _ _ := isFound_keep gap hbody (.plain hplain .nil)
        simpa using hfound
  | skipping escaped =>
    cases escaped with
    | true => trivial
    | false =>
      simp only [advance]
      split
      · trivial
      split
      · next hstart => exact hstart ▸ isFound_start taken
      split
      · trivial
      · trivial

/-- **A whole stream** holds the frames that are found in it, behind what was open before. -/
theorem holdsFrames_drain {bound : Nat} (h : phase.IsOpen (bound - 2) taken) (stream : Bytes) :
    HoldsFrames (taken ++ stream) (drain ⟨bound, phase⟩ stream).2 ∧
      ∀ payload ∈ (drain ⟨bound, phase⟩ stream).2, payload.length ≤ bound - 2 := by
  induction stream generalizing taken phase with
  | nil =>
    rw [drain_nil]
    exact ⟨.none _, nofun⟩
  | cons byte rest ih =>
    have hfound := isFound_advance h byte
    rw [drain_cons]
    rcases hadvance : advance (bound - 2) phase byte with ⟨next, payload | payload⟩
    · rw [hadvance] at hfound
      obtain ⟨hholds, hshort⟩ := ih hfound
      exact ⟨by simpa using hholds, hshort⟩
    · rw [hadvance] at hfound
      obtain ⟨rfl, hlength, gap, wire, htaken, hframe⟩ := hfound
      -- Nothing is open behind a frame, so what follows it is looked at by itself.
      obtain ⟨hholds, hshort⟩ := ih (show Phase.idle.IsOpen (bound - 2) [] from trivial)
      have hcut : taken ++ byte :: rest = gap ++ (wire ++ rest) := by
        rw [← List.append_assoc, ← htaken]
        simp
      rw [hcut]
      exact ⟨.cons gap hframe hholds, List.forall_mem_cons.mpr ⟨hlength, hshort⟩⟩

end Scanner

/-! ## Registers -/

/-- What a scanner remembers, one thing in each register. -/
structure Registers where
  escaped : Bool := false
  active : Bool := false
  skipping : Bool := false
  held : Bytes := []
  deriving DecidableEq, Repr

namespace Registers

/-- A payload byte counts only while a frame is open. It is held, or it makes the frame too long. -/
def push (limit : Nat) (registers : Registers) (byte : UInt8) : Registers :=
  if ¬ registers.active then registers
  else if limit ≤ registers.held.length then
    { registers with held := [], active := false, skipping := true }
  else { registers with held := registers.held ++ [byte] }

/-- What one byte does to the registers, and the payload it completes, if it does. -/
def feed (limit : Nat) (registers : Registers) (byte : UInt8) : Registers × Option Bytes :=
  if registers.escaped then ({ registers with escaped := false }.push limit byte, none)
  else if byte = escape then
    ({ registers with escaped := registers.active || registers.skipping }, none)
  else if byte = startMarker then
    ({ registers with held := [], active := true, skipping := false }, none)
  else if byte = endMarker then
    if registers.active then ({ registers with held := [], active := false }, some registers.held)
    else ({ registers with skipping := false }, none)
  else (registers.push limit byte, none)

/-- What a stream does to the registers, and the payloads it completes. -/
def feedAll (limit : Nat) (registers : Registers) : Bytes → Registers × List Bytes
  | [] => (registers, [])
  | byte :: rest =>
    let (registers, frame) := registers.feed limit byte
    let (registers, frames) := registers.feedAll limit rest
    (registers, frame.toList ++ frames)

/-- The registers do not contradict each other, and no more is held than the limit allows. -/
structure IsConsistent (limit : Nat) (registers : Registers) : Prop where
  within : registers.held.length ≤ limit
  empty : registers.active = false → registers.held = []
  apart : ¬ (registers.active = true ∧ registers.skipping = true)
  pending : registers.escaped = true → registers.active = true ∨ registers.skipping = true

variable {limit : Nat} {registers : Registers}

theorem isConsistent_empty (limit : Nat) : IsConsistent limit {} :=
  ⟨Nat.zero_le limit, fun _ => rfl, by decide, nofun⟩

theorem IsConsistent.push (h : registers.IsConsistent limit) (byte : UInt8) :
    (registers.push limit byte).IsConsistent limit := by
  simp only [Registers.push]
  split
  · exact h
  split
  · exact ⟨Nat.zero_le limit, fun _ => rfl, by simp, by simp⟩
  · next hactive hroom =>
    refine ⟨?_, fun hidle => absurd hidle (by simpa using hactive), h.apart, h.pending⟩
    rw [List.length_append, List.length_singleton]
    omega

/-- **One byte** keeps the registers consistent. -/
theorem IsConsistent.feed (h : registers.IsConsistent limit) (byte : UInt8) :
    (registers.feed limit byte).1.IsConsistent limit := by
  simp only [Registers.feed]
  split
  · have hread : { registers with escaped := false }.IsConsistent limit :=
      ⟨h.within, h.empty, h.apart, nofun⟩
    exact hread.push byte
  next hescaped =>
  split
  · refine ⟨h.within, h.empty, h.apart, fun hpending => ?_⟩
    simpa using hpending
  split
  · exact ⟨Nat.zero_le limit, fun _ => rfl, by simp, fun _ => .inl rfl⟩
  split
  · split
    · exact ⟨Nat.zero_le limit, fun _ => rfl, by simp, fun hpending => absurd hpending hescaped⟩
    · exact ⟨h.within, h.empty, by simp, fun hpending => absurd hpending hescaped⟩
  · exact h.push byte

/-- **A whole stream** keeps them consistent. -/
theorem IsConsistent.feedAll (h : registers.IsConsistent limit) (stream : Bytes) :
    (registers.feedAll limit stream).1.IsConsistent limit := by
  induction stream generalizing registers with
  | nil => exact h
  | cons byte rest ih => exact ih (h.feed byte)

end Registers

namespace Scanner

/-- The registers of a scanner. -/
def registers (scanner : Scanner) : Registers :=
  ⟨scanner.isEscaped, scanner.isActive, scanner.isSkipping, scanner.held⟩

/-- The registers of a scanner that keeps a byte. -/
theorem push_registers {bound : Nat} (held : Array UInt8) (byte : UInt8) :
    Registers.push (bound - 2) ⟨false, true, false, held.toList⟩ byte =
      registers ⟨bound, keep (bound - 2) held byte⟩ := by
  rw [Registers.push, keep]
  by_cases hfull : bound - 2 ≤ held.size
  · simp [hfull, registers, isEscaped, isActive, isSkipping, Scanner.held]
  · simp [hfull, registers, isEscaped, isActive, isSkipping, Scanner.held]

/-- A byte is one of the three reserved ones, or none of them. -/
theorem marker_or_plain (byte : UInt8) :
    byte = escape ∨ byte = startMarker ∨ byte = endMarker ∨
      (byte ≠ escape ∧ byte ≠ startMarker ∧ byte ≠ endMarker) := by
  by_cases hescape : byte = escape
  · exact .inl hescape
  by_cases hstart : byte = startMarker
  · exact .inr (.inl hstart)
  by_cases hend : byte = endMarker
  · exact .inr (.inr (.inl hend))
  · exact .inr (.inr (.inr ⟨hescape, hstart, hend⟩))

/-- **The registers of a scanner follow the rules.** -/
theorem feed_registers (bound : Nat) (phase : Phase) (byte : UInt8) :
    (registers ⟨bound, phase⟩).feed (bound - 2) byte =
      (registers ⟨bound, (advance (bound - 2) phase byte).1⟩,
        (advance (bound - 2) phase byte).2) := by
  have hkept : ∀ held, Registers.push (bound - 2) ⟨false, true, false, held.toList⟩ byte =
      registers ⟨bound, keep (bound - 2) held byte⟩ :=
    fun held => push_registers held byte
  cases phase with
  | idle =>
    rcases marker_or_plain byte with rfl | rfl | rfl | hne
    · rfl
    · rfl
    · rfl
    · simp [Registers.feed, Registers.push, advance, registers, isEscaped, isActive, hne]
  | inside held escaped =>
    cases escaped with
    | true => exact congrArg (·, none) (hkept held)
    | false =>
      rcases marker_or_plain byte with rfl | rfl | rfl | hne
      · rfl
      · rfl
      · rfl
      · have hadvance : advance (bound - 2) (.inside held false) byte =
            (keep (bound - 2) held byte, none) := by
          simp [advance, hne]
        rw [hadvance, ← hkept held]
        simp [Registers.feed, registers, isEscaped, isActive, isSkipping, Scanner.held, hne]
  | skipping escaped =>
    cases escaped with
    | true => rfl
    | false =>
      rcases marker_or_plain byte with rfl | rfl | rfl | hne
      · rfl
      · rfl
      · rfl
      · simp [Registers.feed, Registers.push, advance, registers, isEscaped, isActive, hne]

theorem feedAll_registers (bound : Nat) (phase : Phase) (stream : Bytes) :
    (registers ⟨bound, phase⟩).feedAll (bound - 2) stream =
      ((drain ⟨bound, phase⟩ stream).1.registers, (drain ⟨bound, phase⟩ stream).2) := by
  induction stream generalizing phase with
  | nil => rw [Registers.feedAll, drain_nil]
  | cons byte rest ih =>
    rw [drain_cons]
    simp only [Registers.feedAll, feed_registers, ih]

/-! ## All together -/

/-- What reads the end of a stream decodes once more. It fails only if that gives no frame and
leaves bytes behind. -/
structure DecodesAtEnd (atEnd : Scanner → Bytes → Except LinkError (Scanner × Option Bytes × Bytes)) :
    Prop where
  of_ok : ∀ {scanner input result}, atEnd scanner input = .ok result → result = scanner.decode input
  of_error : ∀ {scanner input cause}, atEnd scanner input = .error cause →
    (scanner.decode input).2.1 = none ∧ (scanner.decode input).2.2 ≠ []

/-- The end of a stream never fails, since a scanner leaves no bytes behind. -/
theorem DecodesAtEnd.eq_ok
    {atEnd : Scanner → Bytes → Except LinkError (Scanner × Option Bytes × Bytes)}
    (h : DecodesAtEnd atEnd) (scanner : Scanner) (input : Bytes) :
    atEnd scanner input = .ok (scanner.decode input) := by
  cases hresult : atEnd scanner input with
  | ok result => rw [h.of_ok hresult]
  | error cause =>
    obtain ⟨hnone, hleft⟩ := h.of_error hresult
    exact absurd (decode_rest_of_none hnone) hleft

/-- **A scanner invents nothing.** On any stream, cut into chunks in any way, a scanner at its start
finds the same frames as on the stream in one piece. The stream holds them, in order, and none is
longer than the limit. After any part of the stream the registers of the scanner are those to which
the rules lead, and they are consistent. A call of `decode` that finds no frame leaves nothing
behind, so the end of a stream never fails. -/
theorem finds_what_is_there (bound : Nat) (chunks : List Bytes) :
    (new bound).drainAll chunks = (new bound).drain chunks.flatten ∧
    HoldsFrames chunks.flatten ((new bound).drainAll chunks).2 ∧
    (∀ payload ∈ ((new bound).drainAll chunks).2, payload.length ≤ bound - 2) ∧
    (∀ before after, chunks.flatten = before ++ after →
      Registers.feedAll (bound - 2) {} before =
        (((new bound).drain before).1.registers, ((new bound).drain before).2) ∧
      ((new bound).drain before).1.registers.IsConsistent (bound - 2)) ∧
    (∀ (scanner : Scanner) (input : Bytes),
      (scanner.decode input).2.1 = none → (scanner.decode input).2.2 = []) ∧
    ∀ atEnd, DecodesAtEnd atEnd → ∀ scanner input,
      atEnd scanner input = .ok (scanner.decode input) := by
  have hwhole := drainAll_eq_drain_flatten (new bound) chunks
  obtain ⟨hholds, hshort⟩ :=
    holdsFrames_drain (show Phase.idle.IsOpen (bound - 2) [] from trivial) chunks.flatten
  refine ⟨hwhole, hwhole ▸ hholds, hwhole ▸ hshort, fun before after _ => ?_,
    fun scanner input => decode_rest_of_none, fun atEnd hend => hend.eq_ok⟩
  have hregisters := feedAll_registers bound .idle before
  refine ⟨hregisters, ?_⟩
  have hconsistent := (Registers.isConsistent_empty (bound - 2)).feedAll before
  rwa [show ({} : Registers) = registers ⟨bound, .idle⟩ from rfl, hregisters] at hconsistent

/-- Reads the end of a stream. -/
def decodeAtEnd (scanner : Scanner) (input : Bytes) :
    Except LinkError (Scanner × Option Bytes × Bytes) :=
  match scanner.decode input with
  | (scanner, none, []) => .ok (scanner, none, [])
  | (_, none, _ :: _) => .error (.streamFailed "bytes remaining on stream")
  | (scanner, some frame, rest) => .ok (scanner, some frame, rest)

theorem decodesAtEnd_decodeAtEnd : DecodesAtEnd decodeAtEnd where
  of_ok {scanner input result} h := by
    simp only [decodeAtEnd] at h
    split at h
    · next hdecode => rw [hdecode, Except.ok.inj h]
    · cases h
    · next hdecode => rw [hdecode, Except.ok.inj h]
  of_error {scanner input cause} h := by
    simp only [decodeAtEnd] at h
    split at h
    · cases h
    · next hdecode =>
      rw [hdecode]
      exact ⟨rfl, List.cons_ne_nil _ _⟩
    · cases h

/-- A stray end marker, a frame that begins anew, and a cut between an escape and its byte. -/
theorem finds_what_is_there_behind_a_cut :
    let first := [endMarker, startMarker, 1, startMarker, escape]
    let second := [startMarker, 2, endMarker, escape]
    let found := ((new 4).drainAll [first, second]).2
    found = [[startMarker, 2]] ∧ HoldsFrames (first ++ second) found ∧
      (∀ payload ∈ found, payload.length ≤ 2) ∧
      ((new 4).drain first).1.registers = ⟨true, true, false, []⟩ ∧
      ((new 4).drain first).1.registers.IsConsistent 2 ∧
      ((new 4).decode first).2 = (none, []) ∧
      decodeAtEnd (new 4) second = .ok ((new 4).decode second) := by
  intro first second found
  obtain ⟨-, hholds, hshort, hbefore, hnothing, hend⟩ := finds_what_is_there 4 [first, second]
  have hnone : ((new 4).decode first).2.1 = none := by decide
  exact ⟨by decide +kernel, hholds, hshort, by decide +kernel, (hbefore first second rfl).2,
    Prod.ext hnone (hnothing (new 4) first hnone),
    hend decodeAtEnd decodesAtEnd_decodeAtEnd (new 4) second⟩

end Scanner

end Frame

end RadioGossip
