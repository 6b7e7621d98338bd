import RadioGossip.Proofs.Framing

/-!
# Coming back into step

When a write fails in the middle of a frame, the rest of that frame is never sent, and the next frame
follows on what has got through. The receiver comes back into step on the start marker of that frame
as long as it reads it as one.

There is one cut after which it does not: right behind an **escape**, before the byte that it
protects. The start marker is then taken for that byte, the next payload runs on behind it, and the
frame that ends there is one that nobody sent, or none if it is too long. From the frame after that
on all is well again.
-/

namespace RadioGossip

namespace Frame

/-- The cut through the frame of a payload falls between an escape and the byte it protects: one
start marker, the tokens before that byte and the escape are what is left. -/
def SplitsEscape (payload : Bytes) (cut : Nat) : Prop :=
  ∃ before byte after, payload = before ++ byte :: after ∧ isReserved byte = true ∧
    cut = 2 + (before.flatMap escapeByte).length

/-! ## What is left of a frame -/

theorem take_wrap_of_reserved {before after : Bytes} {byte : UInt8} (h : isReserved byte = true) :
    (wrap (before ++ byte :: after)).take (2 + (before.flatMap escapeByte).length) =
      startMarker :: (before.flatMap escapeByte ++ [escape]) := by
  have hwrap : wrap (before ++ byte :: after) =
      (startMarker :: (before.flatMap escapeByte ++ [escape])) ++
        (byte :: (after.flatMap escapeByte ++ [endMarker])) := by
    simp [wrap, escapeByte, h]
  rw [hwrap]
  exact List.take_left' (by simp; omega)

/-- A cut through the tokens of a payload falls between two of them or splits one behind its
escape. -/
theorem take_tokens {payload : Bytes} {cut : Nat} (h : cut ≤ (payload.flatMap escapeByte).length) :
    (∃ before after, payload = before ++ after ∧
      (payload.flatMap escapeByte).take cut = before.flatMap escapeByte) ∨
    SplitsEscape payload (cut + 1) := by
  induction payload generalizing cut with
  | nil => exact .inl ⟨[], [], rfl, by simp⟩
  | cons byte payload ih =>
    rw [List.flatMap_cons] at h ⊢
    by_cases hwhole : (escapeByte byte).length ≤ cut
    · -- the whole first token is before the cut
      obtain ⟨rest, rfl⟩ := Nat.exists_eq_add_of_le hwhole
      rw [List.length_append] at h
      rw [List.take_length_add_append]
      have hrest : rest ≤ (payload.flatMap escapeByte).length := by omega
      rcases ih hrest with ⟨before, after, rfl, htake⟩ | hsplit
      · exact .inl ⟨byte :: before, after, rfl, by rw [htake, List.flatMap_cons]⟩
      · obtain ⟨before, byte', after, rfl, hreserved, hcut⟩ := hsplit
        refine .inr ⟨byte :: before, byte', after, rfl, hreserved, ?_⟩
        rw [List.flatMap_cons, List.length_append]
        omega
    · by_cases hzero : cut = 0
      · exact .inl ⟨[], byte :: payload, rfl, by simp [hzero]⟩
      · -- a token of two bytes is cut in the middle
        by_cases hreserved : isReserved byte = true
        · rw [escapeByte, if_pos hreserved] at hwhole
          simp only [List.length_cons, List.length_nil] at hwhole
          exact .inr ⟨[], byte, payload, rfl, hreserved, by simp; omega⟩
        · rw [escapeByte, if_neg hreserved] at hwhole
          simp only [List.length_cons, List.length_nil] at hwhole
          omega

namespace Scanner

/-- A scanner that waits for an escaped byte takes the start marker of a frame for it. If the frame
that was open has no room for that any more, both are lost. -/
theorem drain_wrap_escaped {bound : Nat} (held : Array UInt8) (payload : Bytes) :
    drain ⟨bound, .inside held true⟩ (wrap payload) =
      (new bound, if held.size + 1 + payload.length ≤ bound - 2
        then [held.toList ++ startMarker :: payload] else []) := by
  rw [wrap, List.cons_append, drain_cons]
  by_cases h : held.size < bound - 2
  · have hkeep : advance (bound - 2) (.inside held true) startMarker =
        (.inside (held.push startMarker) false, none) := by
      simp [advance, keep, Nat.not_le.mpr h]
    rw [hkeep, drain_tokens_endMarker payload (by rw [Array.size_push]; omega)]
    simp [new]
  · have hkeep : advance (bound - 2) (.inside held true) startMarker =
        (.skipping false, none) := by
      simp [advance, keep, Nat.not_lt.mp h]
    rw [hkeep, drain_tokens_endMarker_skipping, if_neg (by omega)]
    rfl

/-- A row of frames, taken by a scanner that is in a frame or between two. -/
theorem drain_flatMap_wrap_of_not_escaped {bound : Nat} {phase : Phase} (payloads : List Bytes)
    (h : isEscaped ⟨bound, phase⟩ = false) :
    (drain ⟨bound, phase⟩ (payloads.flatMap wrap)).2 =
      payloads.filter (List.length · ≤ bound - 2) := by
  cases payloads with
  | nil => rw [List.flatMap_nil, drain_nil, List.filter_nil]
  | cons payload payloads =>
    rw [List.flatMap_cons, drain_append, drain_wrap payload h, drain_flatMap_wrap]
    by_cases hfits : payload.length ≤ bound - 2
    · simp [hfits]
    · simp [hfits]

/-- After a cut between two tokens the scanner knows the next start marker for what it is. -/
theorem drain_take_wrap_of_not_splits {bound cut : Nat} {payload : Bytes}
    (hpayload : wrappedLength payload ≤ bound) (hcut : cut < (wrap payload).length)
    (hsplit : ¬ SplitsEscape payload cut) :
    ∃ phase, (new bound).drain ((wrap payload).take cut) = (⟨bound, phase⟩, []) ∧
      isEscaped ⟨bound, phase⟩ = false := by
  cases cut with
  | zero => exact ⟨.idle, drain_nil _, rfl⟩
  | succ cut =>
    simp only [wrap, List.cons_append, List.length_cons, List.length_append,
      List.length_nil] at hcut
    rw [wrap, List.cons_append, List.take_succ_cons, List.take_append_of_le_length (by omega)]
    have htokens : cut ≤ (payload.flatMap escapeByte).length := by omega
    rcases take_tokens htokens with ⟨before, after, rfl, htake⟩ | hsplit'
    · have hfits := length_le_of_wrappedLength_le hpayload
      rw [List.length_append] at hfits
      refine ⟨.inside ((#[] : Array UInt8) ++ before) false, ?_, rfl⟩
      rw [htake, drain_startMarker _ rfl, drain_tokens_inside before (by simp), filled,
        if_pos (by simp only [List.size_toArray, List.length_nil, new]; omega)]
      rfl
    · exact absurd hsplit' hsplit

/-- After a cut behind an escape it waits for the byte that the escape protects. -/
theorem drain_take_wrap_of_splits {bound : Nat} {before after : Bytes} {byte : UInt8}
    (hpayload : wrappedLength (before ++ byte :: after) ≤ bound)
    (hreserved : isReserved byte = true) :
    (new bound).drain ((wrap (before ++ byte :: after)).take
        (2 + (before.flatMap escapeByte).length)) =
      (⟨bound, .inside ((#[] : Array UInt8) ++ before) true⟩, []) := by
  have hfits := length_le_of_wrappedLength_le hpayload
  rw [List.length_append, List.length_cons] at hfits
  rw [take_wrap_of_reserved hreserved, drain_startMarker _ rfl, drain_append,
    drain_tokens_inside before (by simp), filled,
    if_pos (by simp only [List.size_toArray, List.length_nil, new]; omega), drain_cons, drain_nil]
  rfl

/-- The frame that follows then runs on in the one that was cut. -/
theorem drain_cut_behind_escape {bound : Nat} {before after first : Bytes} {byte : UInt8}
    {rest : List Bytes} (hpayload : wrappedLength (before ++ byte :: after) ≤ bound)
    (hreserved : isReserved byte = true) :
    ((new bound).drain ((wrap (before ++ byte :: after)).take
        (2 + (before.flatMap escapeByte).length) ++ (first :: rest).flatMap wrap)).2 =
      (if before.length + 1 + first.length ≤ bound - 2 then [before ++ startMarker :: first] else [])
        ++ rest.filter (List.length · ≤ bound - 2) := by
  have hfits := length_le_of_wrappedLength_le hpayload
  rw [List.length_append, List.length_cons] at hfits
  rw [drain_append, drain_take_wrap_of_splits hpayload hreserved, List.flatMap_cons, drain_append,
    drain_wrap_escaped, drain_flatMap_wrap]
  simp

/-- **Coming back into step.** What got through of a frame that was cut, followed by whole frames,
is read as those frames, unless the cut fell right behind an escape. Then the first of them is lost:
its payload runs on in the frame that was cut, behind a start marker that nobody sent as payload. -/
theorem drain_cut_frame {bound cut : Nat} {payload : Bytes} {others : List Bytes}
    (hpayload : wrappedLength payload ≤ bound)
    (hothers : ∀ other ∈ others, wrappedLength other ≤ bound) (hcut : cut < (wrap payload).length) :
    (((new bound).drain ((wrap payload).take cut ++ others.flatMap wrap)).2 = others ↔
      others = [] ∨ ¬ SplitsEscape payload cut) ∧
    ∀ before byte after first rest, payload = before ++ byte :: after → isReserved byte = true →
      cut = 2 + (before.flatMap escapeByte).length → others = first :: rest →
      ((new bound).drain ((wrap payload).take cut ++ others.flatMap wrap)).2 =
        (if before.length + 1 + first.length ≤ bound - 2 then [before ++ startMarker :: first]
          else []) ++ rest := by
  have hall : ∀ {frames : List Bytes}, frames <:+ others →
      frames.filter (List.length · ≤ bound - 2) = frames := by
    intro frames hframes
    rw [List.filter_eq_self]
    intro frame hframe
    simpa using length_le_of_wrappedLength_le (hothers frame (hframes.subset hframe))
  have hsplits : ∀ before byte after first rest, payload = before ++ byte :: after →
      isReserved byte = true → cut = 2 + (before.flatMap escapeByte).length →
      others = first :: rest →
      ((new bound).drain ((wrap payload).take cut ++ others.flatMap wrap)).2 =
        (if before.length + 1 + first.length ≤ bound - 2 then [before ++ startMarker :: first]
          else []) ++ rest := by
    rintro before byte after first rest rfl hreserved rfl rfl
    rw [drain_cut_behind_escape hpayload hreserved, hall (List.suffix_cons ..)]
  refine ⟨⟨fun h => ?_, fun h => ?_⟩, hsplits⟩
  · by_cases hnil : others = []
    · exact .inl hnil
    · refine .inr ?_
      rintro ⟨before, byte, after, hbefore, hreserved, hsplit⟩
      obtain ⟨first, rest, rfl⟩ := List.exists_cons_of_ne_nil hnil
      rw [hsplits before byte after first rest hbefore hreserved hsplit rfl] at h
      -- the first payload is longer than the one that was sent, or it is missing
      split at h
      · have hlen := congrArg List.length (List.cons.inj h).1
        rw [List.length_append, List.length_cons] at hlen
        omega
      · have hlen := congrArg List.length h
        rw [List.nil_append, List.length_cons] at hlen
        omega
  · by_cases hsplit : SplitsEscape payload cut
    · obtain rfl := h.resolve_right (fun hnot => hnot hsplit)
      obtain ⟨before, byte, after, rfl, hreserved, rfl⟩ := hsplit
      rw [List.flatMap_nil, List.append_nil, drain_take_wrap_of_splits hpayload hreserved]
    · obtain ⟨phase, hdrain, hphase⟩ := drain_take_wrap_of_not_splits hpayload hcut hsplit
      rw [drain_append, hdrain, drain_flatMap_wrap_of_not_escaped others hphase,
        hall (List.suffix_refl _)]
      rfl

/-- A payload of one start marker, cut behind its escape: the frame after it is read as a payload
that begins with a start marker, and what was sent is lost. -/
theorem drain_cut_frame_one_marker :
    let sent : List Bytes := [[1]]
    let stream := (wrap [startMarker]).take 2 ++ sent.flatMap wrap
    (wrappedLength [startMarker] ≤ 16 ∧ (∀ other ∈ sent, wrappedLength other ≤ 16) ∧
      2 < (wrap [startMarker]).length) ∧
    ((new 16).drain stream).2 = [[startMarker, 1]] ∧
    (((new 16).drain stream).2 = sent ↔ sent = [] ∨ ¬ SplitsEscape [startMarker] 2) :=
  ⟨by decide, by decide +kernel, (drain_cut_frame (by decide) (by decide) (by decide)).1⟩

end Scanner

end Frame

end RadioGossip
