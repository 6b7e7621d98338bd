import RadioGossip.Frame.Scanner

/-!
# Frames on a stream

What a scanner makes of the frames that `encode` wrote. A payload byte stands in a frame as one
**token**, by itself or behind an escape, and a scanner inside a frame takes token by token: it
keeps the byte, or gives the frame up once the byte is one too many. The markers around the tokens
open and close the frame, so a scanner that does not wait for an escaped byte comes back idle from
every frame, with its payload if that was short enough.

Both bounds are free here. The sender's decides which payloads are written at all, the receiver's
which of those are taken.
-/

namespace RadioGossip

namespace Frame

/-! ## Writing -/

theorem encode_of_le {bound : Nat} {payload : Bytes} (h : wrappedLength payload ≤ bound) :
    encode bound payload = .ok (wrap payload) := by
  simp only [encode, if_neg (Nat.not_lt.mpr h)]

theorem encode_of_lt {bound : Nat} {payload : Bytes} (h : bound < wrappedLength payload) :
    encode bound payload = .error (.frameTooLarge (wrappedLength payload) bound) := by
  simp only [encode, if_pos h]

/-- A payload that the sender's bound admits is short enough for a receiver with that bound. -/
theorem length_le_of_wrappedLength_le {bound : Nat} {payload : Bytes}
    (h : wrappedLength payload ≤ bound) : payload.length ≤ bound - 2 := by
  simp only [wrappedLength] at h
  omega

/-- Writes a frame behind what a send buffer holds. A payload beyond the bound leaves it alone. -/
def encodeInto (bound : Nat) (buffer payload : Bytes) : Bytes × Except LinkError Unit :=
  match encode bound payload with
  | .ok wire => (buffer ++ wire, .ok ())
  | .error cause => (buffer, .error cause)

/-- What a send buffer holds after one payload was encoded after the other. -/
def encodeAll (bound : Nat) (payloads : List Bytes) : Bytes :=
  payloads.foldl (fun buffer payload => (encodeInto bound buffer payload).1) []

theorem encodeInto_of_le {bound : Nat} {buffer payload : Bytes}
    (h : wrappedLength payload ≤ bound) :
    encodeInto bound buffer payload = (buffer ++ wrap payload, .ok ()) := by
  simp only [encodeInto, encode_of_le h]

theorem encodeInto_of_lt {bound : Nat} {buffer payload : Bytes}
    (h : bound < wrappedLength payload) :
    encodeInto bound buffer payload =
      (buffer, .error (.frameTooLarge (wrappedLength payload) bound)) := by
  simp only [encodeInto, encode_of_lt h]

/-- The send buffer holds the frames of the payloads within the bound. -/
theorem encodeAll_eq_flatMap (bound : Nat) (payloads : List Bytes) :
    encodeAll bound payloads = (payloads.filter (wrappedLength · ≤ bound)).flatMap wrap := by
  have hfold : ∀ buffer, payloads.foldl (fun buffer payload => (encodeInto bound buffer payload).1)
      buffer = buffer ++ (payloads.filter (wrappedLength · ≤ bound)).flatMap wrap := by
    induction payloads with
    | nil => simp
    | cons payload payloads ih =>
      intro buffer
      rw [List.foldl_cons, ih]
      by_cases h : wrappedLength payload ≤ bound
      · rw [encodeInto_of_le h, List.filter_cons_of_pos (by simpa using h)]
        simp
      · rw [encodeInto_of_lt (Nat.not_le.mp h), List.filter_cons_of_neg (by simpa using h)]
  exact hfold []

/-! ## Scanning -/

namespace Scanner

/-- Where a stream is cut into chunks makes no difference. -/
theorem drainAll_eq_drain_flatten (scanner : Scanner) (chunks : List Bytes) :
    scanner.drainAll chunks = scanner.drain chunks.flatten := by
  induction chunks generalizing scanner with
  | nil => exact scanner.drain_nil.symm
  | cons chunk chunks ih => simp only [List.flatten_cons, drain_append, drainAll, ih]

/-! ### Tokens -/

/-- A frame takes the byte that a token stands for. -/
theorem drain_escapeByte_inside (bound : Nat) (held : Array UInt8) (byte : UInt8) :
    drain ⟨bound, .inside held false⟩ (escapeByte byte) =
      (⟨bound, keep (bound - 2) held byte⟩, []) := by
  by_cases h : isReserved byte = true
  · rw [escapeByte, if_pos h, drain_cons, drain_cons, drain_nil]
    rfl
  · have hne : byte ≠ escape ∧ byte ≠ startMarker ∧ byte ≠ endMarker := by
      simpa [isReserved, and_assoc] using h
    rw [escapeByte, if_neg h, drain_cons, drain_nil]
    simp [advance, hne]

/-- The rest of a frame that was given up swallows a token. -/
theorem drain_escapeByte_skipping (bound : Nat) (byte : UInt8) :
    drain ⟨bound, .skipping false⟩ (escapeByte byte) = (⟨bound, .skipping false⟩, []) := by
  by_cases h : isReserved byte = true
  · rw [escapeByte, if_pos h, drain_cons, drain_cons, drain_nil]
    rfl
  · have hne : byte ≠ escape ∧ byte ≠ startMarker ∧ byte ≠ endMarker := by
      simpa [isReserved, and_assoc] using h
    rw [escapeByte, if_neg h, drain_cons, drain_nil]
    simp [advance, hne]

theorem drain_tokens_skipping (bound : Nat) (payload : Bytes) :
    drain ⟨bound, .skipping false⟩ (payload.flatMap escapeByte) =
      (⟨bound, .skipping false⟩, []) := by
  induction payload with
  | nil => exact drain_nil _
  | cons byte payload ih =>
    rw [List.flatMap_cons, drain_append, drain_escapeByte_skipping, ih]
    rfl

/-- Where a scanner stands after the tokens of a payload behind what the frame holds already. -/
def filled (limit : Nat) (held : Array UInt8) (payload : Bytes) : Phase :=
  if held.size + payload.length ≤ limit then .inside (held ++ payload) false else .skipping false

/-- The tokens of a payload fill a frame up to the limit. Beyond it the frame is given up. -/
theorem drain_tokens_inside {bound : Nat} {held : Array UInt8} (payload : Bytes)
    (h : held.size ≤ bound - 2) :
    drain ⟨bound, .inside held false⟩ (payload.flatMap escapeByte) =
      (⟨bound, filled (bound - 2) held payload⟩, []) := by
  induction payload generalizing held with
  | nil => simp [drain_nil, filled, h]
  | cons byte payload ih =>
    rw [List.flatMap_cons, drain_append, drain_escapeByte_inside]
    by_cases hfull : bound - 2 ≤ held.size
    · -- The first byte is one too many, and whatever follows it is swallowed.
      have hover : ¬ held.size + (byte :: payload).length ≤ bound - 2 := by
        rw [List.length_cons]
        omega
      rw [keep, if_pos hfull, drain_tokens_skipping, filled, if_neg hover]
      rfl
    · rw [keep, if_neg hfull, ih (by rw [Array.size_push]; omega)]
      simp [filled, Nat.add_right_comm, Nat.add_assoc]

/-- The end marker behind the tokens closes the frame. -/
theorem drain_tokens_endMarker {bound : Nat} {held : Array UInt8} (payload : Bytes)
    (h : held.size ≤ bound - 2) :
    drain ⟨bound, .inside held false⟩ (payload.flatMap escapeByte ++ [endMarker]) =
      (⟨bound, .idle⟩,
        if held.size + payload.length ≤ bound - 2 then [held.toList ++ payload] else []) := by
  rw [drain_append, drain_tokens_inside payload h, drain_cons, drain_nil]
  by_cases hfits : held.size + payload.length ≤ bound - 2
  · rw [filled, if_pos hfits, if_pos hfits]
    simp [advance, escape, startMarker, endMarker]
  · rw [filled, if_neg hfits, if_neg hfits]
    simp [advance, escape, startMarker, endMarker]

/-- It also ends the rest of a frame that was given up. -/
theorem drain_tokens_endMarker_skipping (bound : Nat) (payload : Bytes) :
    drain ⟨bound, .skipping false⟩ (payload.flatMap escapeByte ++ [endMarker]) =
      (new bound, []) := by
  rw [drain_append, drain_tokens_skipping, drain_cons, drain_nil]
  rfl

/-! ### Frames -/

/-- A start marker opens a frame unless it stands behind an escape that counts. -/
theorem drain_startMarker {scanner : Scanner} (rest : Bytes) (h : scanner.isEscaped = false) :
    scanner.drain (startMarker :: rest) = drain ⟨scanner.bound, .inside #[] false⟩ rest := by
  obtain ⟨bound, phase⟩ := scanner
  rw [drain_cons]
  cases phase with
  | idle => rfl
  | inside held escaped =>
    obtain rfl : escaped = false := h
    rfl
  | skipping escaped =>
    obtain rfl : escaped = false := h
    rfl

/-- **A frame.** A scanner that does not wait for an escaped byte is idle after a frame, and has
its payload if that is short enough. -/
theorem drain_wrap {scanner : Scanner} (payload : Bytes) (h : scanner.isEscaped = false) :
    scanner.drain (wrap payload) =
      (new scanner.bound, if payload.length ≤ scanner.bound - 2 then [payload] else []) := by
  rw [wrap, List.cons_append, drain_startMarker _ h, drain_tokens_endMarker payload (by simp)]
  simp [new]

/-- A row of frames. -/
theorem drain_flatMap_wrap (bound : Nat) (payloads : List Bytes) :
    (new bound).drain (payloads.flatMap wrap) =
      (new bound, payloads.filter (List.length · ≤ bound - 2)) := by
  induction payloads with
  | nil => exact drain_nil _
  | cons payload payloads ih =>
    rw [List.flatMap_cons, drain_append, drain_wrap payload rfl]
    simp only [new] at ih ⊢
    rw [ih]
    by_cases hfits : payload.length ≤ bound - 2
    · simp [hfits]
    · simp [hfits]

/-- **Framing end to end.** Each payload within the sender's bound adds exactly its wrapped length to
the send buffer, any other is refused and adds nothing. However the stream is then cut into chunks,
the receiver takes the sent payloads that are within its own bound, in order and nothing else, and
is idle afterwards. -/
theorem drainAll_encodeAll (bound receiving : Nat) (payloads : List Bytes) :
    (∀ before payload after, payloads = before ++ payload :: after →
      (bound < wrappedLength payload →
        encodeInto bound (encodeAll bound before) payload =
          (encodeAll bound before, .error (.frameTooLarge (wrappedLength payload) bound))) ∧
      (wrappedLength payload ≤ bound →
        ∃ wire, wire.length = wrappedLength payload ∧
          encodeInto bound (encodeAll bound before) payload =
            (encodeAll bound before ++ wire, .ok ()))) ∧
    ∀ chunks : List Bytes, chunks.flatten = encodeAll bound payloads →
      (new receiving).drainAll chunks =
        (new receiving,
          payloads.filter fun payload =>
            wrappedLength payload ≤ bound ∧ payload.length ≤ receiving - 2) := by
  refine ⟨fun before payload after _ => ⟨encodeInto_of_lt, fun h => ?_⟩, fun chunks hchunks => ?_⟩
  · exact ⟨wrap payload, length_wrap payload, encodeInto_of_le h⟩
  · rw [drainAll_eq_drain_flatten, hchunks, encodeAll_eq_flatMap, drain_flatMap_wrap,
      List.filter_filter]
    refine Prod.ext rfl (List.filter_congr fun payload _ => ?_)
    rw [Bool.decide_and, Bool.and_comm]

/-- A payload with every reserved byte in it, cut behind its first escape, and one that only the
sender's bound admits. -/
theorem drainAll_encodeAll_three_chunks :
    [[startMarker, escape], [escape, escape, startMarker, endMarker, startMarker, 1],
      [2, 3, endMarker]].flatten = encodeAll 6 [[escape, startMarker], [0, 0, 0, 0, 0], [1, 2, 3]] ∧
    (new 4).drainAll [[startMarker, escape],
        [escape, escape, startMarker, endMarker, startMarker, 1], [2, 3, endMarker]] =
      (new 4, [[escape, startMarker], [0, 0, 0, 0, 0], [1, 2, 3]].filter fun payload =>
        wrappedLength payload ≤ 6 ∧ payload.length ≤ 4 - 2) :=
  ⟨by decide, (drainAll_encodeAll 6 4 _).2 _ (by decide)⟩

end Scanner

end Frame

end RadioGossip
