import RadioGossip.Proofs.Copies

/-!
# Path texts are lists of callsigns

The **elements** of a path are what stands between the semicolons of its text, and an empty text has
none. A station reads a path as these elements, whatever the text is: there may be empty ones, and a
callsign is never taken for a longer one that begins with it. With semicolons between them the
elements give the text back, so nothing of it is lost.

A callsign that is appended comes to stand last among the elements, and it changes none of the others.
So a path that was only ever appended to is the list of what was appended.
-/

namespace RadioGossip

namespace Path

variable {path : Path} {callsign : String} {callsigns : List String}

/-- What stands between the semicolons of a path. -/
def elements (path : Path) : List String :=
  if path.text = "" then [] else (path.text.toList.splitOn separator).map String.ofList

theorem pieces_eq_splitOn (cs : List Char) : pieces cs = cs.splitOn separator := by
  induction cs with
  | nil => rfl
  | cons c cs ih =>
    -- The first piece is there, and it takes in any character but a separator.
    obtain ⟨piece, others, hpieces⟩ := List.exists_cons_of_ne_nil (pieces_ne_nil cs)
    rw [List.splitOn_cons_eq_if_modifyHead, ← ih, pieces, hpieces]
    simp only [beq_iff_eq, List.modifyHead_cons]

theorem hops_eq_elements (path : Path) : path.hops = path.elements := by
  rw [hops, elements, pieces_eq_splitOn]

/-- **The elements give the text back**, with a semicolon between two. -/
theorem intercalate_elements (path : Path) :
    String.intercalate (String.singleton separator) path.elements = path.text := by
  by_cases hempty : path.text = ""
  · rw [elements, if_pos hempty, String.intercalate_nil, hempty]
  · have htexts : (path.text.toList.splitOn separator).map (String.toList ∘ String.ofList) =
        path.text.toList.splitOn separator := by
      simp [Function.comp_def]
    rw [elements, if_neg hempty, ← String.toList_inj, String.toList_intercalate, List.map_map,
      htexts, String.toList_singleton, List.intercalate_splitOn]

theorem contains_iff_mem_elements : path.contains callsign = true ↔ callsign ∈ path.elements := by
  rw [contains_iff_mem_hops, hops_eq_elements]

theorem elements_append (h : IsCallsign callsign) :
    (path.append callsign).elements = path.elements ++ [callsign] := by
  rw [← hops_eq_elements, hops_append h, hops_eq_elements]

/-- Callsigns that are appended one after the other stand behind the elements in this order. -/
theorem elements_foldl_append (h : ∀ callsign ∈ callsigns, IsCallsign callsign) :
    (callsigns.foldl append path).elements = path.elements ++ callsigns := by
  induction callsigns generalizing path with
  | nil => exact (List.append_nil _).symm
  | cons callsign callsigns ih =>
    obtain ⟨hfirst, hothers⟩ := List.forall_mem_cons.mp h
    rw [List.foldl_cons, ih hothers, elements_append hfirst, List.append_assoc,
      List.singleton_append]

/-- **A path is the list of its elements.** Whatever the text of a path is, the path contains exactly
its elements, and these give the text back. A callsign that is appended to it becomes its last element
and changes no other, so the path then contains what it contained and the callsign. An empty path to
which callsigns are appended one after the other has exactly these for elements, in this order, and
contains these and no others; and the path of a message tells in this order the stations by which the
message went on. -/
theorem path_is_list :
    (∀ (path : Path) callsign, path.contains callsign = true ↔ callsign ∈ path.elements) ∧
    (∀ path : Path,
      String.intercalate (String.singleton separator) path.elements = path.text) ∧
    (∀ (path : Path) callsign, IsCallsign callsign →
      (path.append callsign).elements = path.elements ++ [callsign] ∧
      ∀ other, (path.append callsign).contains other = true ↔
        path.contains other = true ∨ other = callsign) ∧
    (∀ callsigns : List String, (∀ callsign ∈ callsigns, IsCallsign callsign) →
      (callsigns.foldl append empty).elements = callsigns ∧
      ∀ other, (callsigns.foldl append empty).contains other = true ↔ other ∈ callsigns) ∧
    ∀ (message : Message) route, (∀ callsign ∈ route, IsCallsign callsign) →
      (message.along route).path.elements = message.path.elements ++ route := by
  refine ⟨fun _ _ => contains_iff_mem_elements, intercalate_elements, fun path callsign h => ?_,
    fun callsigns h => ?_, fun message route h => ?_⟩
  · refine ⟨elements_append h, fun other => ?_⟩
    rw [contains_iff_mem_elements, contains_iff_mem_elements, elements_append h, List.mem_append,
      List.mem_singleton]
  · have hall : (callsigns.foldl append empty).elements = callsigns := elements_foldl_append h
    refine ⟨hall, fun other => ?_⟩
    rw [contains_iff_mem_elements, hall]
  · rw [← hops_eq_elements, message.hops_along h, hops_eq_elements]

/-- A path from elsewhere with empty elements at both ends and in the middle. It contains the empty
callsign, and no callsign that one of its elements begins with or that begins with one, until that is
appended. A path of two appended callsigns, and that of a message that went on by these stations. -/
theorem path_is_list_with_gaps :
    let path : Path := ⟨";DL1;;K2X;"⟩
    let source : Contact := .ofLetter 65
    let message := { Message.make source 1 .cq [] with path := path.append "DL1ABC" }
    IsCallsign "DL1ABC" ∧ IsCallsign "K2" ∧ path.elements = ["", "DL1", "", "K2X", ""] ∧
      path.contains "" = true ∧ ¬ path.contains "DL1ABC" = true ∧ ¬ path.contains "K2" = true ∧
      (path.append "DL1ABC").elements = ["", "DL1", "", "K2X", "", "DL1ABC"] ∧
      (path.append "DL1ABC").contains "DL1ABC" = true ∧
      (["K2", "DL1ABC"].foldl append empty).elements = ["K2", "DL1ABC"] ∧
      ¬ (["K2", "DL1ABC"].foldl append empty).contains "DL1" = true ∧
      (message.along ["K2"]).path.elements = ["", "DL1", "", "K2X", "", "DL1ABC", "K2"] := by
  intro path source message
  obtain ⟨hcontains, -, happend, hrow, halong⟩ := path_is_list
  have hlong : IsCallsign "DL1ABC" := ⟨by decide +kernel, by decide +kernel⟩
  have hshort : IsCallsign "K2" := ⟨by decide +kernel, by decide +kernel⟩
  have helements : path.elements = ["", "DL1", "", "K2X", ""] := by decide +kernel
  have hcontains' : ∀ callsign, path.contains callsign = true ↔
      callsign ∈ ["", "DL1", "", "K2X", ""] := fun callsign => helements ▸ hcontains path callsign
  obtain ⟨hlast, hmember⟩ := happend path "DL1ABC" hlong
  have hboth : ∀ callsign ∈ ["K2", "DL1ABC"], IsCallsign callsign := by
    simp [hlong, hshort]
  obtain ⟨hback, hrowmember⟩ := hrow _ hboth
  rw [helements] at hlast
  refine ⟨hlong, hshort, helements, (hcontains' _).mpr (by decide), mt (hcontains' _).mp (by decide),
    mt (hcontains' _).mp (by decide), hlast, (hmember _).mpr (.inr rfl), hback,
    mt (hrowmember _).mp (by decide), ?_⟩
  rw [halong message ["K2"] (by simp [hshort])]
  exact congrArg (· ++ ["K2"]) hlast

end Path

end RadioGossip
