import RadioGossip.Proofs.Resynchronisation

/-!
# Noise on the line

Anything may come in before the first frame that was sent: parts of frames, stray markers, bytes that
were never a frame. Whatever it is, it does not reach beyond the **first** frame behind it. That one
is damaged only if the noise ends in an escape that counts, for then its start marker is taken for the
byte behind the escape: its payload runs on in the frame that was open, or it is swallowed with the
rest of one that was given up.
-/

namespace RadioGossip

namespace Frame

/-- The send buffer holds the frames of payloads that are all within the bound. -/
theorem encodeAll_eq_flatMap_of_le {bound : Nat} {payloads : List Bytes}
    (h : ∀ payload ∈ payloads, wrappedLength payload ≤ bound) :
    encodeAll bound payloads = payloads.flatMap wrap := by
  rw [encodeAll_eq_flatMap, List.filter_eq_self.mpr]
  simpa using h

namespace Scanner

theorem bound_drain (scanner : Scanner) (stream : Bytes) :
    (scanner.drain stream).1.bound = scanner.bound := by
  obtain ⟨bound, phase⟩ := scanner
  induction stream generalizing phase with
  | nil => rw [drain_nil]
  | cons byte rest ih => rw [drain_cons, ih]

/-- What comes of a frame behind the bytes that a scanner has taken. -/
def comesOf (scanner : Scanner) (payload : Bytes) : Option Bytes :=
  if scanner.isEscaped = false then some payload
  else if scanner.isActive ∧ scanner.held.length + 1 + payload.length ≤ scanner.payloadLimit then
    some (scanner.held ++ startMarker :: payload)
  else none

/-- **One frame**, whatever came before it, leaves a scanner idle. -/
theorem drain_wrap_eq (scanner : Scanner) {payload : Bytes}
    (h : payload.length ≤ scanner.bound - 2) :
    scanner.drain (wrap payload) = (new scanner.bound, (scanner.comesOf payload).toList) := by
  obtain ⟨bound, phase⟩ := scanner
  cases hescaped : isEscaped ⟨bound, phase⟩ with
  | false =>
    rw [drain_wrap payload hescaped, comesOf, if_pos hescaped, if_pos h]
    rfl
  | true =>
    rw [comesOf, hescaped, if_neg (by decide)]
    cases phase with
    | idle => cases hescaped
    | inside held escaped =>
      obtain rfl : escaped = true := hescaped
      rw [drain_wrap_escaped]
      simp only [isActive, Scanner.held, payloadLimit, Array.length_toList, true_and]
      split
      · rfl
      · rfl
    | skipping escaped =>
      obtain rfl : escaped = true := hescaped
      rw [wrap, List.cons_append, drain_cons]
      simp [advance, drain_tokens_endMarker_skipping, isActive]

/-- Only an escape makes a scanner wait for an escaped byte. -/
theorem isEscaped_advance_of_ne {bound limit : Nat} {byte : UInt8} (phase : Phase)
    (h : byte ≠ escape) : isEscaped ⟨bound, (advance limit phase byte).1⟩ = false := by
  have hkeep : ∀ held, isEscaped ⟨bound, keep limit held byte⟩ = false := by
    intro held
    rw [keep]
    split
    · rfl
    · rfl
  cases phase with
  | idle =>
    simp only [advance]
    split
    · rfl
    · rfl
  | inside held escaped =>
    cases escaped with
    | true => exact hkeep held
    | false =>
      simp only [advance, if_neg h]
      split
      · rfl
      split
      · rfl
      · exact hkeep held
  | skipping escaped =>
    cases escaped with
    | true => rfl
    | false =>
      simp only [advance, if_neg h]
      split
      · rfl
      split
      · rfl
      · rfl

/-- A scanner that waits for an escaped byte has taken an escape last. -/
theorem getLast?_of_isEscaped {bound : Nat} {noise : Bytes}
    (h : ((new bound).drain noise).1.isEscaped = true) : noise.getLast? = some escape := by
  rcases List.eq_nil_or_concat noise with rfl | ⟨before, last, rfl⟩
  · rw [drain_nil] at h
    cases h
  · by_cases hlast : last = escape
    · simp [hlast]
    · rw [List.concat_eq_append, drain_append, drain_cons, drain_nil,
        isEscaped_advance_of_ne _ hlast] at h
      cases h

/-- A scanner waits for an escaped byte in a frame or in the rest of one. -/
theorem isActive_or_isSkipping_of_isEscaped {scanner : Scanner} (h : scanner.isEscaped = true) :
    scanner.isActive = true ∨ scanner.isSkipping = true := by
  obtain ⟨bound, phase⟩ := scanner
  cases phase with
  | idle => cases h
  | inside held escaped => exact .inl rfl
  | skipping escaped => exact .inr rfl

/-- A frame comes out as it was sent exactly if its start marker is read as one. -/
theorem comesOf_eq_self_iff {scanner : Scanner} {payload : Bytes} :
    scanner.comesOf payload = some payload ↔ scanner.isEscaped = false := by
  rw [comesOf]
  split
  · next hescaped => simp [hescaped]
  · next hescaped =>
    split
    · -- what comes out instead is longer
      have hlonger : scanner.held ++ startMarker :: payload ≠ payload := by
        intro heq
        have hlength := congrArg List.length heq
        rw [List.length_append, List.length_cons] at hlength
        omega
      simp [hescaped, hlonger]
    · simp [hescaped]

/-- **Noise damages one frame at most.** Behind any bytes whatever, whole frames of payloads within
the bound are found as they were sent from the second one on, and what comes of the first is one
frame or none. It is the frame that was sent, unless the bytes end in an escape which still waits for
its byte in a frame that is open or in the rest of one that was given up. -/
theorem drain_behind_noise {bound : Nat} {first : Bytes} {others : List Bytes} (noise : Bytes)
    (h : ∀ payload ∈ first :: others, wrappedLength payload ≤ bound) :
    let heard := (new bound).drain noise
    ∃ damaged : Option Bytes,
      (new bound).drain (noise ++ encodeAll bound (first :: others)) =
        (new bound, heard.2 ++ damaged.toList ++ others) ∧
      (damaged = some first ↔ ¬ (noise.getLast? = some escape ∧ heard.1.isEscaped = true ∧
        (heard.1.isActive = true ∨ heard.1.isSkipping = true))) := by
  intro heard
  have hbound : heard.1.bound = bound := bound_drain (new bound) noise
  have hfits : ∀ payload ∈ first :: others, payload.length ≤ bound - 2 :=
    fun payload hpayload => length_le_of_wrappedLength_le (h payload hpayload)
  obtain ⟨hfirst, hothers⟩ := List.forall_mem_cons.mp hfits
  refine ⟨heard.1.comesOf first, ?_, ?_⟩
  · rw [encodeAll_eq_flatMap_of_le h, drain_append, List.flatMap_cons, drain_append,
      drain_wrap_eq heard.1 (hbound.symm ▸ hfirst), hbound, drain_flatMap_wrap,
      List.filter_eq_self.mpr (by simpa using hothers), List.append_assoc]
  · rw [comesOf_eq_self_iff]
    constructor
    · rintro hescaped ⟨-, hwaits, -⟩
      rw [hescaped] at hwaits
      cases hwaits
    · intro hnot
      refine Bool.eq_false_iff.mpr fun hwaits => ?_
      exact hnot ⟨getLast?_of_isEscaped hwaits, hwaits, isActive_or_isSkipping_of_isEscaped hwaits⟩

/-- A whole frame, then one that breaks off behind an escape: the first frame that was sent runs on in
it, and the two others are found. -/
theorem drain_behind_noise_broken_off :
    let noise := wrap [7] ++ [startMarker, 9, escape]
    let sent : List Bytes := [[1], [2], [escape]]
    (∀ payload ∈ sent, wrappedLength payload ≤ 16) ∧
      ((new 16).drain (noise ++ encodeAll 16 sent)).2 =
        [[7], [9, startMarker, 1], [2], [escape]] ∧
      ∃ damaged, damaged ≠ some [1] ∧
        (new 16).drain (noise ++ encodeAll 16 sent) =
          (new 16, [[7]] ++ Option.toList damaged ++ [[2], [escape]]) := by
  intro noise sent
  have hsent : ∀ payload ∈ sent, wrappedLength payload ≤ 16 := by decide
  have hheard : ((new 16).drain noise).2 = [[7]] := by decide +kernel
  obtain ⟨damaged, hdrain, hdamaged⟩ := drain_behind_noise noise hsent
  refine ⟨hsent, by decide +kernel, damaged, fun heq => ?_, hheard ▸ hdrain⟩
  exact hdamaged.mp heq (by decide +kernel)

end Scanner

end Frame

end RadioGossip
