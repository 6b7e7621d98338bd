import RadioGossip.Proofs.AddressTexts
import RadioGossip.Proofs.Documents
import RadioGossip.Settings.Document

/-!
# Settings are read back

The document of settings leaves nothing out, and every member goes by its own name. So reading finds
all members in their places, reads each of them back and puts in no default. What it finds then are
the same settings, and they are valid if these were.
-/

namespace RadioGossip

namespace Settings

open Json

/-! ## Sections -/

/-- Members that go by the names of the places from one on fill these places. -/
theorem foldlM_place {fields : List (List String)} {members : List (String × Value)}
    {placed : List (Option Value)}
    (h : (members.map fun member => position? member.1 fields) =
      (List.range' placed.length members.length).map some) :
    (members.map fun (key, value) => (some key, value)).foldlM (place fields)
        (placed ++ List.replicate members.length none) =
      some (placed ++ members.map fun member => some member.2) := by
  induction members generalizing placed with
  | nil => rfl
  | cons member members ih =>
    obtain ⟨key, value⟩ := member
    simp only [List.map_cons, List.length_cons, List.range'_succ, List.cons.injEq] at h
    obtain ⟨hposition, hothers⟩ := h
    have hplace : place fields (placed ++ List.replicate (members.length + 1) none)
        (some key, value) = some ((placed ++ [some value]) ++ List.replicate members.length none) := by
      simp [place, hposition, List.replicate_succ]
    have hrest := @ih (placed ++ [some value]) (by rw [hothers, List.length_append]; rfl)
    rw [List.map_cons, List.length_cons, List.foldlM_cons, hplace]
    exact hrest.trans (by simp)

/-- The own name of a field, which is the first that it has. -/
def ownName (names : List String) : String := names.headD ""

/-- By its own name each field is found in its place. -/
def FindsPlaces (fields : List (List String)) : Prop :=
  (fields.map fun names => position? (ownName names) fields) =
    (List.range' 0 fields.length).map some

instance (fields : List (List String)) : Decidable (FindsPlaces fields) :=
  inferInstanceAs (Decidable (_ = _))

/-- **A section with all its members** under their own names is read in full. -/
theorem sectionValues_record {fields : List (List String)} (h : FindsPlaces fields)
    {members : List (String × Value)} (hnames : members.map Prod.fst = fields.map ownName) :
    sectionValues fields (.record members) = some (members.map fun member => some member.2) := by
  have hlength : members.length = fields.length := by
    have := congrArg List.length hnames
    rwa [List.length_map, List.length_map] at this
  have hempty : (fields.map fun _ => (none : Option Value)) = List.replicate members.length none := by
    rw [List.map_const', hlength]
  have hpositions : (members.map fun member => position? member.1 fields) =
      (List.range' 0 members.length).map some := by
    have hown := congrArg (List.map fun name => position? name fields) hnames
    rw [List.map_map, List.map_map] at hown
    rw [hlength]
    exact hown.trans h
  rw [Value.record, sectionValues, hempty]
  exact @foldlM_place fields members [] hpositions

/-! ## Values -/

theorem textOf?_text (text : String) : textOf? (.text text) = some text := rfl

theorem naturalBelow?_natural {bound n : Nat} (h : n < bound) :
    naturalBelow? bound (.natural n) = some n := if_pos h

theorem u8Of?_natural (n : UInt8) : u8Of? (.natural n.toNat) = some n := by
  rw [u8Of?, naturalBelow?_natural n.toNat_lt, Option.map_some, UInt8.ofNat_toNat]

theorem u16Of?_natural (n : UInt16) : u16Of? (.natural n.toNat) = some n := by
  rw [u16Of?, naturalBelow?_natural n.toNat_lt, Option.map_some, UInt16.ofNat_toNat]

theorem u32Of?_natural (n : UInt32) : u32Of? (.natural n.toNat) = some n := by
  rw [u32Of?, naturalBelow?_natural n.toNat_lt, Option.map_some, UInt32.ofNat_toNat]

theorem u64Of?_natural (n : UInt64) : u64Of? (.natural n.toNat) = some n := by
  rw [u64Of?, naturalBelow?_natural n.toNat_lt, Option.map_some, UInt64.ofNat_toNat]

theorem listOf?_array {α : Type} {read : Value → Option α} {write : α → Value}
    (h : ∀ x, read (write x) = some x) (xs : List α) :
    listOf? read (.array (xs.map write)) = some xs := by
  rw [listOf?]
  induction xs with
  | nil => rfl
  | cons x xs ih => simp [h, ih]

theorem ipOf?_text (ip : IpAddress) : ipOf? (.text ip.text) = some ip := by
  simp [ipOf?, textOf?_text, IpAddress.ofText?_text]

theorem kindOf?_kindValue (kind : StationKind) : kindOf? (kindValue kind) = some kind := by
  cases kind with
  | user => rfl
  | fixed => rfl
  | other tag => simp [kindValue, Value.record, kindOf?, u8Of?_natural]

/-! ## Sections of settings -/

theorem peerOf?_peerValue (peer : PeerAddress) : peerOf? (peerValue peer) = some peer := by
  rw [peerOf?, peerValue, sectionValues_record (by decide) rfl]
  simp [textOf?_text, u16Of?_natural]

theorem logicOf?_logicValue (logic : LogicSection) : logicOf? (logicValue logic) = some logic := by
  rw [logicOf?, logicValue, sectionValues_record (by decide) rfl]
  simp [orDefault, boolOf?, u64Of?_natural]

theorem nodeOf?_nodeValue (node : NodeSection) : nodeOf? (nodeValue node) = some node := by
  rw [nodeOf?, nodeValue, sectionValues_record (by decide) rfl]
  simp [orDefault, textOf?_text, u16Of?_natural, u32Of?_natural, u64Of?_natural,
    listOf?_array peerOf?_peerValue, logicOf?_logicValue]

theorem stationOf?_stationValue (station : StationSection) :
    stationOf? (stationValue station) = some station := by
  rw [stationOf?, stationValue, sectionValues_record (by decide) rfl]
  simp [orDefault, textOf?_text, kindOf?_kindValue, listOf?_array ipOf?_text]

/-- **All that settings say is found** in the value that they are written as. -/
theorem ofValue?_toValue (settings : Settings) : ofValue? settings.toValue = some settings := by
  rw [ofValue?, toValue, sectionValues_record (by decide) rfl]
  simp [orDefault, nodeOf?_nodeValue, stationOf?_stationValue]

/-! ## Documents -/

theorem isPlain_natural {n width : Nat} (h : n < 2 ^ width) (hwidth : width ≤ 64) :
    (Value.natural n).IsPlain :=
  .natural (Nat.lt_of_lt_of_le h (Nat.pow_le_pow_right (by decide) hwidth))

theorem isPlain_map {α : Type} {write : α → Value} (h : ∀ x, (write x).IsPlain) (xs : List α) :
    (Value.array (xs.map write)).IsPlain := .array (List.forall_mem_map.mpr fun x _ => h x)

theorem isPlain_peerValue (peer : PeerAddress) : (peerValue peer).IsPlain := by
  refine .record ?_
  simp only [List.forall_mem_cons]
  exact ⟨.text _, isPlain_natural peer.port.toNat_lt (by decide), nofun⟩

theorem isPlain_kindValue (kind : StationKind) : (kindValue kind).IsPlain := by
  cases kind with
  | user => exact .text _
  | fixed => exact .text _
  | other tag =>
    refine .record ?_
    simp only [List.forall_mem_cons]
    exact ⟨isPlain_natural tag.toNat_lt (by decide), nofun⟩

theorem isPlain_logicValue (logic : LogicSection) : (logicValue logic).IsPlain := by
  refine .record ?_
  simp only [List.forall_mem_cons]
  exact ⟨isPlain_natural logic.cacheSize.toNat_lt (by decide), .bool _, nofun⟩

theorem isPlain_nodeValue (node : NodeSection) : (nodeValue node).IsPlain := by
  refine .record ?_
  simp only [List.forall_mem_cons]
  exact ⟨.text _, isPlain_natural node.port.toNat_lt (by decide),
    isPlain_natural node.peerQueueSize.toNat_lt (by decide),
    isPlain_natural node.retries.toNat_lt (by decide),
    isPlain_natural node.reconnectInterval.toNat_lt (by decide),
    isPlain_natural node.connectTimeout.toNat_lt (by decide),
    isPlain_natural node.maxFrameSize.toNat_lt (by decide),
    isPlain_map isPlain_peerValue _, isPlain_logicValue _, nofun⟩

theorem isPlain_stationValue (station : StationSection) : (stationValue station).IsPlain := by
  refine .record ?_
  simp only [List.forall_mem_cons]
  exact ⟨.text _, isPlain_kindValue _, isPlain_map (fun _ => .text _) _, nofun⟩

theorem isPlain_toValue (settings : Settings) : settings.toValue.IsPlain := by
  refine .record ?_
  simp only [List.forall_mem_cons]
  exact ⟨isPlain_nodeValue _, isPlain_stationValue _, nofun⟩

/-- A document of settings is understood, and what decides is whether they are valid. -/
theorem ofText_text_eq (settings : Settings) :
    ofText settings.text =
      match settings.validate with
      | .ok () => .ok settings
      | .error fault => .error (.invalid fault) := by
  have hread : Value.ofText? settings.text >>= ofValue? = some settings := by
    rw [text, Value.ofText?_pretty (isPlain_toValue settings), Option.bind_eq_bind,
      Option.bind_some, ofValue?_toValue]
  cases hvalid : settings.validate with
  | ok valid => simp only [ofText, hread, hvalid]
  | error fault => simp only [ofText, hread, hvalid]

/-- **Settings are read back from their document.** Whatever valid settings say, in whatever
characters, with whatever numbers and addresses, their document is understood, and what it says are
the very same settings. So it is as good as a file of settings, and written again it is the same
document. -/
theorem ofText_text {settings : Settings} (h : settings.validate = .ok ()) :
    ofText settings.text = .ok settings ∧
      ofFile (some (Text.utf8 settings.text)) = .ok settings ∧
      (ofText settings.text).map text = .ok settings.text := by
  have hread : ofText settings.text = .ok settings := by rw [ofText_text_eq, h]
  refine ⟨hread, ?_, ?_⟩
  · rw [ofFile, Option.bind_eq_bind, Option.bind_some, Text.ofUtf8?_utf8]
    exact hread
  · rw [hread]
    rfl

/-- Control characters, quotes and a character beyond the first plane, the largest numbers, and
addresses of every shape. -/
theorem ofText_text_extremes :
    let settings : Settings := {
      node := {
        bindAddress := "\x00\"\\/\x7f\u2028😀"
        port := 65535
        peerQueueSize := 18446744073709551615
        retries := 4294967295
        reconnectInterval := 18446744073709551615
        connectTimeout := 0
        maxFrameSize := 18446744073709551615
        peers := [⟨"", 0⟩, ⟨"fe80::1%lo", 1⟩]
        logic := { cacheSize := 18446744073709551615, readOnly := true } }
      station := {
        callsign := "\tÄ\n"
        kind := .other 1
        ips := [.v4 0 10 200 255, .v6 0 0 0 0 0 0xFFFF 0x0102 0xFEFF, .v6 0 0 0 0 0 0 0 0,
          .v6 0x2001 0xDB8 0 0 1 0 0 1, .v6 1 0 2 0 3 0 4 0] } }
    settings.validate = .ok () ∧ ofText settings.text = .ok settings ∧
      ofFile (some (Text.utf8 settings.text)) = .ok settings ∧
      (ofText settings.text).map text = .ok settings.text := by
  intro settings
  have hvalid : settings.validate = .ok () := by decide +kernel
  exact ⟨hvalid, ofText_text hvalid⟩

end Settings

end RadioGossip
