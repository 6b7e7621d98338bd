import RadioGossip.Message.Path

/-!
# Paths are lists of callsigns

A text that may stand in a path as one hop is not empty and holds no separator. Appending such a
**callsign** to a path adds it to the end of the hops and changes none of those before it, so what a
station asks a path, whether it has been here, has the answer that the list of appended callsigns
gives.
-/

namespace RadioGossip

namespace Path

/-- A text that stands in a path as one hop. -/
structure IsCallsign (text : String) : Prop where
  nonempty : text ≠ ""
  separator_not_mem : separator ∉ text.toList

/-! ## Pieces -/

theorem pieces_ne_nil (cs : List Char) : pieces cs ≠ [] := by
  cases cs with
  | nil => simp [pieces]
  | cons c cs =>
    rw [pieces]
    split
    · simp
    · split <;> simp

theorem pieces_cons_separator (cs : List Char) : pieces (separator :: cs) = [] :: pieces cs := by
  rw [pieces]
  split
  · next h => exact absurd h (pieces_ne_nil cs)
  · next h => rw [if_pos rfl, h]

/-- Between the pieces before a separator and those after it nothing is shared. -/
theorem pieces_append_separator (before after : List Char) :
    pieces (before ++ separator :: after) = pieces before ++ pieces after := by
  induction before with
  | nil => simp [pieces_cons_separator, pieces]
  | cons c before ih =>
    by_cases hc : c = separator
    · rw [hc, List.cons_append, pieces_cons_separator, pieces_cons_separator, ih, List.cons_append]
    · -- Any other character joins the first piece, which is one of those before the separator.
      obtain ⟨piece, others, hpieces⟩ := List.exists_cons_of_ne_nil (pieces_ne_nil before)
      rw [List.cons_append, pieces, pieces, ih, hpieces]
      simp [hc]

theorem pieces_of_separator_not_mem {cs : List Char} (h : separator ∉ cs) : pieces cs = [cs] := by
  induction cs with
  | nil => rfl
  | cons c cs ih =>
    obtain ⟨hc, hcs⟩ := not_or.mp (mt List.mem_cons.mpr h)
    rw [pieces, ih hcs]
    simp [Ne.symm hc]

/-! ## Hops -/

theorem hops_empty : empty.hops = [] := rfl

/-- **Appending a callsign** adds one hop at the end. -/
theorem hops_append {path : Path} {callsign : String} (h : IsCallsign callsign) :
    (path.append callsign).hops = path.hops ++ [callsign] := by
  have hpieces := pieces_of_separator_not_mem h.separator_not_mem
  by_cases hempty : path.text = ""
  · simp [append, hops, hempty, h.nonempty, hpieces]
  · have htext : path.text ++ String.singleton separator ++ callsign ≠ "" := by
      simp
    rw [append, if_neg hempty, hops, if_neg htext, hops, if_neg hempty]
    simp only [String.toList_append, String.toList_singleton, List.append_assoc,
      List.cons_append, List.nil_append, pieces_append_separator, hpieces, List.map_append,
      List.map_cons, List.map_nil, String.ofList_toList]

theorem contains_iff_mem_hops {path : Path} {callsign : String} :
    path.contains callsign = true ↔ callsign ∈ path.hops := by
  rw [contains, List.contains_iff_mem]

/-- A row of a character that is one byte has as many bytes as characters. -/
theorem length_replicate {c : Char} (hc : c.utf8Size = 1) (count : Nat) :
    length ⟨String.ofList (.replicate count c)⟩ = count := by
  induction count with
  | zero => rfl
  | succ count ih =>
    rw [length] at ih
    rw [length, List.replicate_succ, String.ofList_cons, String.utf8ByteSize_append,
      String.utf8ByteSize_singleton, ih, hc, Nat.add_comm]

/-- A further hop costs the bytes of its callsign and a separator. -/
theorem length_append {path : Path} (hpath : path.text ≠ "") (callsign : String) :
    (path.append callsign).length = path.length + (callsign.utf8ByteSize + 1) := by
  have hseparator : (String.singleton separator).utf8ByteSize = 1 := by decide
  rw [append, if_neg hpath, length, String.utf8ByteSize_append, String.utf8ByteSize_append,
    hseparator, length]
  omega

/-- A hop costs the bytes of its callsign and at most one more. -/
theorem length_append_le (path : Path) (callsign : String) :
    (path.append callsign).length ≤ path.length + (callsign.utf8ByteSize + 1) := by
  by_cases hempty : path.text = ""
  · rw [append, if_pos hempty]
    simp only [length]
    omega
  · exact Nat.le_of_eq (length_append hempty callsign)

end Path

end RadioGossip
