import RadioGossip.Ip.Text
import RadioGossip.Proofs.Numerals

/-!
# Addresses in words are read back

Whatever an address is written as, it is read back from it. Numbers come back because no digit
follows them. Groups come back one after the other up to the end or to the double colon, for no
group begins with a colon. The double colon stands for as many zero groups as are missing, and those are
the ones that it was written for. Dots tell an address of octets from one of groups: the latter has
none unless it embeds octets, and then it begins with a colon.
-/

namespace RadioGossip

namespace IpAddress

open Text (EndsDigits endsRow_nil endsRow_cons)

variable {first : Bool} {room : Nat} {cs rest : List Char} {group : UInt16} {groups : List UInt16}

/-! ## Numbers -/

theorem readNumber_toDigits {radix most n : Nat} (hone : 1 < radix) (hradix : radix ≤ 16)
    (hmost : 0 < most) (h : n < radix ^ most) (padded : Bool) (hrest : EndsDigits radix rest) :
    readNumber radix most padded (Nat.toDigits radix n ++ rest) = some (n, rest) := by
  have hne : Text.numeral radix n ≠ [] := Text.numeral_ne_nil hone hradix
  have hlength := Text.length_numeral_le hone hradix hmost h
  have hnone : ¬ ((Text.numeral radix n).isEmpty = true ∨
      most < (Text.numeral radix n).length) := by
    rw [List.isEmpty_iff, not_or]
    exact ⟨hne, Nat.not_lt.mpr hlength⟩
  -- A numeral has no leading zero, so it does not matter whether one is refused.
  have hkept : ¬ (!padded && (Text.numeral radix n).head? == some 0 &&
      decide (1 < (Text.numeral radix n).length)) = true := by
    simp only [Bool.and_eq_true, beq_iff_eq, decide_eq_true_eq]
    rintro ⟨⟨-, hhead⟩, hlong⟩
    obtain rfl := Text.eq_zero_of_head?_numeral hone hradix hhead
    rw [Text.numeral_of_lt hradix (by omega)] at hlong
    exact absurd hlong (by decide)
  rw [readNumber, Text.takeDigits_toDigits hone hradix hrest]
  simp only [if_neg hnone, if_neg hkept, Text.foldl_numeral hone hradix]

theorem readNumber_of_endsDigits {radix : Nat} (most : Nat) (padded : Bool)
    (h : EndsDigits radix cs) : readNumber radix most padded cs = none := by
  rw [readNumber, Text.takeDigits_of_endsDigits h]
  rfl

/-- What stands behind a number is what stands behind all its digits. -/
theorem rest_of_readNumber {radix most value : Nat} {padded : Bool}
    (h : readNumber radix most padded cs = some (value, rest)) :
    rest = cs.dropWhile (Text.isDigit radix) := by
  obtain ⟨-, h⟩ := Option.ite_none_left_eq_some.mp h
  obtain ⟨-, h⟩ := Option.ite_none_left_eq_some.mp h
  exact (congrArg Prod.snd (Option.some.inj h)).symm

theorem readChar_self (c : Char) (cs : List Char) : readChar c (c :: cs) = some cs := if_pos rfl

theorem readChar_eq_none {expected : Char} (h : expected ∉ cs) : readChar expected cs = none := by
  cases cs with
  | nil => rfl
  | cons c cs =>
    refine if_neg fun heq => h ?_
    rw [heq]
    exact List.mem_cons_self

/-! ## Four octets -/

theorem readOctet_toDigits (octet : UInt8) (hrest : EndsDigits 10 rest) :
    readOctet (Nat.toDigits 10 octet.toNat ++ rest) = some (octet, rest) := by
  have hlt := octet.toNat_lt
  rw [readOctet, readNumber_toDigits (by decide) (by decide) (by decide) (by omega) false hrest]
  simp only [Option.bind_eq_bind, Option.bind_some, if_pos hlt, UInt8.ofNat_toNat]

theorem toList_quadText (a b c d : UInt8) :
    (quadText a b c d).toList = Nat.toDigits 10 a.toNat ++ '.' :: (Nat.toDigits 10 b.toNat ++
      '.' :: (Nat.toDigits 10 c.toNat ++ '.' :: Nat.toDigits 10 d.toNat)) := by
  have hoctet : ∀ octet : UInt8, (toString octet).toList = Nat.toDigits 10 octet.toNat := by
    intro octet
    exact (congrArg String.toList Nat.repr_eq_ofList_toDigits).trans String.toList_ofList
  have hdot : (toString ".").toList = ['.'] := rfl
  simp [quadText, String.toList_append, hoctet, hdot]

theorem readQuad_quadText (a b c d : UInt8) (hrest : EndsDigits 10 rest) :
    readQuad ((quadText a b c d).toList ++ rest) = some ((a, b, c, d), rest) := by
  have hdot : ∀ cs, EndsDigits 10 ('.' :: cs) := endsRow_cons (by decide)
  simp only [toList_quadText, List.append_assoc, List.cons_append, readQuad,
    readOctet_toDigits _ (hdot _), readOctet_toDigits _ hrest, readChar_self, Option.bind_eq_bind,
    Option.bind_some, Option.pure_def]

/-- Without a dot there are no four octets. -/
theorem readQuad_eq_none (h : '.' ∉ cs) : readQuad cs = none := by
  rw [readQuad]
  cases hoctet : readOctet cs with
  | none => rfl
  | some found =>
    obtain ⟨octet, rest⟩ := found
    have hrest : '.' ∉ rest := by
      simp only [readOctet, Option.bind_eq_bind, Option.bind_eq_some_iff] at hoctet
      obtain ⟨⟨value, rest'⟩, hnumber, hfound⟩ := hoctet
      obtain ⟨-, hfound⟩ := Option.ite_none_right_eq_some.mp hfound
      obtain ⟨-, rfl⟩ := Prod.mk.inj (Option.some.inj hfound)
      rw [rest_of_readNumber hnumber]
      exact fun hdot => h ((List.dropWhile_suffix _).mem hdot)
    simp only [Option.bind_eq_bind, Option.bind_some, readChar_eq_none hrest, Option.bind_none]

theorem readQuad_of_endsDigits (h : EndsDigits 10 cs) : readQuad cs = none := by
  simp only [readQuad, readOctet, readNumber_of_endsDigits 3 false h, Option.bind_eq_bind,
    Option.bind_none]

/-! ## Groups -/

/-- Groups with a colon before each of them. -/
def colonGroups (groups : List UInt16) : List Char :=
  groups.flatMap fun group => ':' :: Nat.toDigits 16 group.toNat

theorem toList_groupsText_cons (group : UInt16) (groups : List UInt16) :
    (groupsText (group :: groups)).toList =
      Nat.toDigits 16 group.toNat ++ colonGroups groups := by
  induction groups generalizing group with
  | nil => simp [groupsText, groupText, colonGroups]
  | cons second groups ih =>
    have hstep : groupsText (group :: second :: groups) =
        groupText group ++ ":" ++ groupsText (second :: groups) := by
      simp only [groupsText, List.map_cons, String.intercalate_cons_cons]
    rw [hstep, String.toList_append, String.toList_append, ih]
    simp [groupText, colonGroups]

theorem dot_notMem_toDigits (group : UInt16) : '.' ∉ Nat.toDigits 16 group.toNat := by
  intro hdot
  have hdigit := Text.isDigit_of_mem_toDigits (by decide) (by decide) hdot
  exact absurd hdigit (by decide)

theorem dot_notMem_colonGroups (groups : List UInt16) : '.' ∉ colonGroups groups := by
  intro hdot
  obtain ⟨group, -, hmem⟩ := List.mem_flatMap.mp hdot
  rcases List.mem_cons.mp hmem with hcolon | hdigit
  · exact absurd hcolon (by decide)
  · exact dot_notMem_toDigits group hdigit

theorem dot_notMem_groupsText (groups : List UInt16) : '.' ∉ (groupsText groups).toList := by
  cases groups with
  | nil => exact List.not_mem_nil
  | cons group groups =>
    rw [toList_groupsText_cons]
    simp [dot_notMem_toDigits, dot_notMem_colonGroups]

theorem dot_notMem_groups (group : UInt16) (groups : List UInt16) (hdot : '.' ∉ rest) :
    '.' ∉ Nat.toDigits 16 group.toNat ++ (colonGroups groups ++ rest) := by
  simp [dot_notMem_toDigits, dot_notMem_colonGroups, hdot]

/-- Nothing that can be a further group stands here: the text ends, or a double colon does. -/
def EndsGroups (cs : List Char) : Prop := cs = [] ∨ ∃ more, cs = ':' :: ':' :: more

theorem EndsGroups.endsDigits (h : EndsGroups cs) (groups : List UInt16) :
    EndsDigits 16 (colonGroups groups ++ cs) := by
  cases groups with
  | cons group groups => exact endsRow_cons (by decide) _
  | nil =>
    obtain rfl | ⟨more, rfl⟩ := h
    · exact endsRow_nil
    · exact endsRow_cons (by decide) _

/-- Nothing is read unless there is a number. -/
theorem readGroups_eq_nil (room : Nat) (h : ∀ cs', readColon first cs = some cs' →
    EndsDigits 10 cs' ∧ EndsDigits 16 cs') : readGroups room first cs = ([], false, cs) := by
  cases room with
  | zero => rfl
  | succ room =>
    cases hcolon : readColon first cs with
    | none => simp only [readGroups, hcolon, Option.bind_none, ite_self]
    | some cs' =>
      obtain ⟨hten, hsixteen⟩ := h cs' hcolon
      simp only [readGroups, hcolon, Option.bind_some, readQuad_of_endsDigits hten,
        readNumber_of_endsDigits 4 true hsixteen, ite_self]

theorem readGroups_of_endsGroups (room : Nat) (h : EndsGroups cs) :
    readGroups room first cs = ([], false, cs) := by
  have hcolon : ∀ radix more, EndsDigits radix (':' :: more) :=
    fun radix => endsRow_cons (by simp [Text.isDigit, Text.digitValue?])
  refine readGroups_eq_nil room fun cs' hcs' => ?_
  obtain rfl | ⟨more, rfl⟩ := h
  · cases first with
    | true => exact Option.some.inj hcs' ▸ ⟨endsRow_nil, endsRow_nil⟩
    | false => cases hcs'
  · cases first with
    | true => exact Option.some.inj hcs' ▸ ⟨hcolon 10 _, hcolon 16 _⟩
    | false =>
      obtain rfl := Option.some.inj ((readChar_self ':' _).symm.trans hcs')
      exact ⟨hcolon 10 _, hcolon 16 _⟩

/-- A group that stands there is read, and then the others. -/
theorem readGroups_cons (room : Nat)
    (hcolon : readColon first cs = some (Nat.toDigits 16 group.toNat ++ rest))
    (hquad : readQuad (Nat.toDigits 16 group.toNat ++ rest) = none) (hrest : EndsDigits 16 rest) :
    readGroups (room + 1) first cs =
      (group :: (readGroups room false rest).1, (readGroups room false rest).2) := by
  have hlt := group.toNat_lt
  have hnumber : readNumber 16 4 true (Nat.toDigits 16 group.toNat ++ rest) =
      some (group.toNat, rest) :=
    readNumber_toDigits (by decide) (by decide) (by decide) (by omega) true hrest
  simp only [readGroups, hcolon, Option.bind_some, hquad, hnumber, ite_self, UInt16.ofNat_toNat]

/-- **Groups are read back**, one after the other. -/
theorem readGroups_colonGroups (hroom : groups.length ≤ room) (hends : EndsGroups rest)
    (hdot : '.' ∉ rest) :
    readGroups room false (colonGroups groups ++ rest) = (groups, false, rest) := by
  induction groups generalizing room with
  | nil => exact readGroups_of_endsGroups room hends
  | cons group groups ih =>
    cases room with
    | zero => exact absurd hroom (Nat.not_succ_le_zero _)
    | succ room =>
      have hcolon : readColon false (colonGroups (group :: groups) ++ rest) =
          some (Nat.toDigits 16 group.toNat ++ (colonGroups groups ++ rest)) := by
        simp [colonGroups, readColon, readChar]
      rw [readGroups_cons room hcolon (readQuad_eq_none (dot_notMem_groups group groups hdot))
        (hends.endsDigits groups), ih (Nat.le_of_succ_le_succ hroom)]

theorem readGroups_groupsText (hroom : groups.length ≤ room) (hends : EndsGroups rest)
    (hdot : '.' ∉ rest) :
    readGroups room true ((groupsText groups).toList ++ rest) = (groups, false, rest) := by
  cases groups with
  | nil => exact readGroups_of_endsGroups room hends
  | cons group groups =>
    cases room with
    | zero => exact absurd hroom (Nat.not_succ_le_zero _)
    | succ room =>
      rw [toList_groupsText_cons, List.append_assoc,
        readGroups_cons room rfl (readQuad_eq_none (dot_notMem_groups group groups hdot))
          (hends.endsDigits groups),
        readGroups_colonGroups (Nat.le_of_succ_le_succ hroom) hends hdot]

theorem readGroups_groupsText_all (hroom : groups.length ≤ room) :
    readGroups room true (groupsText groups).toList = (groups, false, []) := by
  have hgroups := readGroups_groupsText hroom (.inl rfl) List.not_mem_nil
  rwa [List.append_nil] at hgroups

/-! ## Eight groups -/

theorem length_of_ofGroups?_eq_some {address : IpAddress} (h : ofGroups? groups = some address) :
    groups.length = 8 := by
  unfold ofGroups? at h
  split at h
  · rfl
  · cases h

theorem replicate_leadingZeros (groups : List UInt16) :
    List.replicate (leadingZeros groups) 0 ++ groups.drop (leadingZeros groups) = groups := by
  induction groups with
  | nil => rfl
  | cons group groups ih =>
    rw [leadingZeros, List.takeWhile_cons]
    split
    · next hzero =>
      rw [beq_iff_eq.mp hzero, List.length_cons, List.replicate_succ, List.drop_succ_cons,
        List.cons_append]
      exact congrArg (0 :: ·) ih
    · rfl

/-- The longest run of zero groups is a part of the groups in which all are zero. -/
theorem longestZeros_spec (groups : List UInt16) :
    groups.take (longestZeros groups).1 ++ (List.replicate (longestZeros groups).2 0 ++
      groups.drop ((longestZeros groups).1 + (longestZeros groups).2)) = groups := by
  induction groups with
  | nil => rfl
  | cons group groups ih =>
    simp only [longestZeros]
    split
    · rw [Nat.zero_add, List.take_zero, List.nil_append]
      exact replicate_leadingZeros (group :: groups)
    · rw [Nat.add_right_comm, List.take_succ_cons, List.drop_succ_cons, List.cons_append, ih]

variable {address : IpAddress}

/-- Eight groups without a gap. -/
theorem readV6_groupsText (h : ofGroups? groups = some address) :
    readV6 (groupsText groups).toList = some (address, []) := by
  have hlength := length_of_ofGroups?_eq_some h
  have hgroups := readGroups_groupsText_all (Nat.le_of_eq hlength)
  simp [readV6, hgroups, hlength, h]

/-- Groups around a gap. -/
theorem readV6_gap {head tail : List UInt16} {gap : Nat} (hgap : 0 < gap)
    (h : ofGroups? (head ++ (List.replicate gap 0 ++ tail)) = some address) :
    readV6 (groupsText head ++ "::" ++ groupsText tail).toList = some (address, []) := by
  have hlength := length_of_ofGroups?_eq_some h
  simp only [List.length_append, List.length_replicate] at hlength
  have hchars : (groupsText head ++ "::" ++ groupsText tail).toList =
      (groupsText head).toList ++ ':' :: ':' :: (groupsText tail).toList := by
    simp [String.toList_append]
  have hhead : readGroups 8 true
      ((groupsText head).toList ++ ':' :: ':' :: (groupsText tail).toList) =
      (head, false, ':' :: ':' :: (groupsText tail).toList) :=
    readGroups_groupsText (by omega) (.inr ⟨_, rfl⟩) (by simp [dot_notMem_groupsText])
  have htail : readGroups (7 - head.length) true (groupsText tail).toList = (tail, false, []) :=
    readGroups_groupsText_all (by omega)
  have hzeros : 8 - head.length - tail.length = gap := by omega
  have hshort : head.length ≠ 8 := by omega
  rw [hchars]
  simp [readV6, hhead, readChar_self, hshort, htail, hzeros, h]

/-- Octets that are embedded. -/
theorem readV6_embedded (a b c d : UInt8) :
    readV6 ("::ffff:" ++ quadText a b c d).toList =
      some (v6 0 0 0 0 0 0xFFFF (groupOf a b) (groupOf c d), []) := by
  have hchars : ("::ffff:" ++ quadText a b c d).toList =
      ':' :: ':' :: (Nat.toDigits 16 (0xFFFF : UInt16).toNat ++ ':' :: (quadText a b c d).toList) := by
    rw [String.toList_append]
    rfl
  have hhead : ∀ more, readGroups 8 true (':' :: ':' :: more) = ([], false, ':' :: ':' :: more) :=
    fun more => readGroups_of_endsGroups 8 (.inr ⟨more, rfl⟩)
  have hquad : readQuad (quadText a b c d).toList = some ((a, b, c, d), []) := by
    have := readQuad_quadText a b c d endsRow_nil
    rwa [List.append_nil] at this
  have hlast : readGroups 6 false (':' :: (quadText a b c d).toList) =
      ([groupOf a b, groupOf c d], true, []) := by
    have hcolon : readColon false (':' :: (quadText a b c d).toList) = some (quadText a b c d).toList :=
      readChar_self ':' _
    rw [readGroups, hcolon, if_neg (by decide), Option.bind_some, hquad]
  have hones : readQuad (Nat.toDigits 16 (0xFFFF : UInt16).toNat ++
      ':' :: (quadText a b c d).toList) = none :=
    readQuad_of_endsDigits (endsRow_cons (by decide) _)
  have htail := @readGroups_cons true _ _ 0xFFFF 6 rfl hones (endsRow_cons (by decide) _)
  rw [hlast] at htail
  generalize Nat.toDigits 16 (0xFFFF : UInt16).toNat ++ ':' :: (quadText a b c d).toList = tail
    at hchars htail
  rw [hchars]
  simp [readV6, hhead, readChar_self, htail, ofGroups?]

/-! ## Addresses -/

theorem readQuad_of_colon (cs : List Char) : readQuad (':' :: cs) = none :=
  readQuad_of_endsDigits (endsRow_cons (by decide) cs)

theorem ofText?_of_readV6 {text : String} {address : IpAddress} (hquad : readQuad text.toList = none)
    (h : readV6 text.toList = some (address, [])) : ofText? text = some address := by
  simp only [ofText?, read, hquad, h]

/-- **An address in words is read back.** -/
theorem ofText?_text (address : IpAddress) : ofText? address.text = some address := by
  unfold text
  split
  · next a b c d =>
    have hquad := readQuad_quadText a b c d endsRow_nil
    rw [List.append_nil] at hquad
    simp only [ofText?, read, hquad]
  · next g h =>
    have hquad : readQuad ("::ffff:" ++ quadText (g >>> 8).toUInt8 g.toUInt8 (h >>> 8).toUInt8
        h.toUInt8).toList = none := by
      rw [String.toList_append]
      exact readQuad_of_colon _
    have hread := readV6_embedded (g >>> 8).toUInt8 g.toUInt8 (h >>> 8).toUInt8 h.toUInt8
    rw [groupOf_groupOctets, groupOf_groupOctets] at hread
    exact ofText?_of_readV6 hquad hread
  · next a b c d e f g h _ =>
    have hspec := longestZeros_spec [a, b, c, d, e, f, g, h]
    dsimp only
    split
    · next hgap =>
      refine ofText?_of_readV6 (readQuad_eq_none ?_) (readV6_gap (Nat.zero_lt_of_lt hgap) ?_)
      · simp [String.toList_append, dot_notMem_groupsText]
      · exact congrArg ofGroups? hspec
    · exact ofText?_of_readV6 (readQuad_eq_none (dot_notMem_groupsText _)) (readV6_groupsText rfl)

end IpAddress

end RadioGossip
