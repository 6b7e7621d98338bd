import RadioGossip.Json.Parsing
import RadioGossip.Json.Printing
import RadioGossip.Proofs.Numerals

/-!
# Documents are read back

A value is **plain** when it holds nothing that has no text: every natural number in it has room in
a word, and every string and every key is a text. A plain value is read back from its document.

Both halves of reading are followed through what is written. The characters of a value **are read
as** a row of tokens, whatever was read before them and whatever comes behind them that does not
carry on a number. These tokens **build** the value wherever one may stand. For the characters this
is a matter of strings and numbers; white space and punctuation are read the same everywhere.
-/

namespace RadioGossip

namespace Json

open Text (EndsRow endsRow_nil endsRow_cons)

/-! ## Strings -/

theorem hexUnit?_hexDigit {high low : Nat} (hhigh : high < 2) (hlow : low < 16) :
    hexUnit? '0' '0' (hexDigit high) (hexDigit low) = some (high * 16 + low) := by
  have hdigit : ∀ value < 16, Text.digitValue? 16 (hexDigit value) = some value := by decide
  have hzero : Text.digitValue? 16 '0' = some 0 := rfl
  simp [hexUnit?, hzero, hdigit high (by omega), hdigit low hlow]

/-- A unit of no surrogate pair is a character by itself. -/
theorem characters_unit {value : Nat} (h : value < 0xD800) (following : List Char)
    (pieces : List Piece) :
    characters following (.unit value :: pieces) =
      characters (Char.ofNat value :: following) pieces := by
  have hlow : isLowHalf value = false := by simp [isLowHalf]; omega
  have hhigh : isHighHalf value = false := by simp [isHighHalf]; omega
  cases pieces with
  | nil => simp [characters, hlow, hhigh]
  | cons piece pieces => cases piece <;> simp [characters, hlow, hhigh]

/-- A character as it stands in a string is read as one piece, which stands for it. -/
theorem exists_piece (c : Char) :
    ∃ piece, (∀ read rest, pieces read (escapeChar c ++ rest) = pieces (piece :: read) rest) ∧
      ∀ following others, characters following (piece :: others) =
        characters (c :: following) others := by
  have hchar : ∀ following others, characters following (.char c :: others) =
      characters (c :: following) others := fun _ _ => by rw [characters]
  unfold escapeChar
  -- The seven escapes of one letter, and then that by number.
  iterate 7
    split
    · next h => exact ⟨.char c, fun _ _ => by simp [pieces, escaped?, h], hchar⟩
  split
  · next h =>
    have hunit : hexUnit? '0' '0' (hexDigit (c.toNat / 16)) (hexDigit (c.toNat % 16)) =
        some c.toNat := by
      rw [hexUnit?_hexDigit (by omega) (by omega), Nat.div_add_mod']
    refine ⟨.unit c.toNat, fun _ _ => by simp [pieces, hunit], fun following others => ?_⟩
    rw [characters_unit (by omega), Char.ofNat_toNat]
  · next hbackslash _ _ _ _ _ hcontrol =>
    exact ⟨.char c, fun _ _ => by simp [pieces, hbackslash, hcontrol], hchar⟩

theorem exists_pieces (cs : List Char) :
    ∃ taken,
      (∀ read rest, pieces read (cs.flatMap escapeChar ++ rest) = pieces (taken ++ read) rest) ∧
      ∀ following others, characters following (taken ++ others) =
        characters (cs ++ following) others := by
  induction cs with
  | nil => exact ⟨[], fun _ _ => rfl, fun _ _ => rfl⟩
  | cons c cs ih =>
    obtain ⟨piece, hpiece, hchar⟩ := exists_piece c
    obtain ⟨taken, htaken, hchars⟩ := ih
    refine ⟨taken ++ [piece], fun read rest => ?_, fun following others => ?_⟩
    · rw [List.flatMap_cons, List.append_assoc, hpiece, htaken, List.append_assoc]
      rfl
    · rw [List.append_assoc, hchars]
      exact hchar (cs ++ following) others

/-- **A text is read back** from its string. -/
theorem token?_quote (text : String) (rest : List Char) :
    token? (quote text ++ rest) = some (.string (some text), rest) := by
  obtain ⟨taken, htaken, hchars⟩ := exists_pieces text.toList
  have hpieces : pieces [] (text.toList.flatMap escapeChar ++ '"' :: rest) = some (taken, rest) := by
    rw [htaken, List.append_nil, pieces]
  have hcharacters : characters [] taken = some text.toList := by
    rw [← List.append_nil taken, hchars, List.append_nil, characters]
  have hquote : quote text ++ rest = '"' :: (text.toList.flatMap escapeChar ++ '"' :: rest) := by
    simp [quote]
  simp only [hquote, token?, hpieces, Option.map_some, hcharacters, String.ofList_toList]

/-! ## Numbers -/

/-- Whether a character could carry on a number. -/
def carriesOn (c : Char) : Bool := Text.isDigit 10 c || c == '.' || c == 'e' || c == 'E'

/-- The text does not begin with a character that could carry on a number. -/
abbrev EndsNumber (cs : List Char) : Prop := EndsRow carriesOn cs

variable {n : Nat} {rest : List Char}

theorem EndsNumber.endsDigits (h : EndsNumber rest) : Text.EndsDigits 10 rest := by
  intro c hc
  have hends := h c hc
  simp only [carriesOn, Bool.or_eq_false_iff] at hends
  exact hends.1.1.1

theorem fractionPart_of_endsNumber (h : EndsNumber rest) :
    fractionPart rest = some (false, rest) := by
  unfold fractionPart
  split
  · exact absurd (h '.' rfl) (by decide)
  · rfl

theorem exponentPart_of_endsNumber (h : EndsNumber rest) :
    exponentPart rest = some (false, rest) := by
  unfold exponentPart
  split
  · next c others =>
    split
    · next hexponent =>
      have hends := h c rfl
      rcases hexponent with rfl | rfl <;> exact absurd hends (by decide)
    · rfl
  · rfl

theorem naturalPart_toDigits (h : n < UInt64.size) (hrest : EndsNumber rest) :
    naturalPart (Nat.toDigits 10 n ++ rest) = some (some n, rest) := by
  have htaken : Text.takeDigits 10 (Nat.toDigits 10 n ++ rest) = (Text.numeral 10 n, rest) :=
    Text.takeDigits_toDigits (by decide) (by decide) hrest.endsDigits
  unfold naturalPart
  split
  · next others hzero =>
    -- Only the numeral of zero begins with a zero.
    have hhead : (Text.numeral 10 n).head? = some 0 := by
      have hsame := congrArg (fun taken => taken.1.head?) htaken
      rw [hzero] at hsame
      exact hsame.symm
    obtain rfl := Text.eq_zero_of_head?_numeral (by decide) (by decide) hhead
    have hothers : others = rest := (List.cons.inj hzero).2.symm
    rw [hothers]
  · have hne : Text.numeral 10 n ≠ [] := Text.numeral_ne_nil (by decide) (by decide)
    have hamount : Text.amountAfter 10 UInt64.size 0 (Text.numeral 10 n) = some n :=
      Text.amountAfter_numeral (by decide) (by decide) h
    have hdigits : digits (Nat.toDigits 10 n ++ rest) = some (Text.numeral 10 n, rest) := by
      rw [digits, htaken]
      split
      · next hnil => exact absurd (congrArg Prod.fst hnil) hne
      · rfl
    simp only [hdigits, Option.map_some, hamount]

theorem unsigned_toDigits (h : n < UInt64.size) (hrest : EndsNumber rest) :
    unsigned (Nat.toDigits 10 n ++ rest) = some (some n, rest) := by
  simp only [unsigned, naturalPart_toDigits h hrest, fractionPart_of_endsNumber hrest,
    exponentPart_of_endsNumber hrest, Option.bind_eq_bind, Option.bind_some, Option.pure_def,
    Bool.or_false, Bool.false_eq_true, if_false]

/-- **A number is read back** unless it is carried on. -/
theorem token?_toDigits (h : n < UInt64.size) (hrest : EndsNumber rest) :
    token? (Nat.toDigits 10 n ++ rest) = some (.natural n, rest) := by
  have hfirst : ∀ c others, Nat.toDigits 10 n ++ rest = c :: others → Text.isDigit 10 c = true := by
    intro c others heq
    obtain ⟨first, more, hdigits⟩ := List.exists_cons_of_ne_nil (@Nat.toDigits_ne_nil n 10)
    rw [hdigits] at heq
    obtain rfl := (List.cons.inj heq).1
    exact Text.isDigit_of_mem_toDigits (by decide) (by decide) (hdigits ▸ List.mem_cons_self)
  unfold token?
  split
  case h_12 => rw [unsigned_toDigits h hrest]; rfl
  all_goals
    next hother => exact absurd (hfirst _ _ hother) (by decide)

/-! ## Tokens -/

theorem token?_of_isSpace {c : Char} (h : isSpace c = true) (cs : List Char) :
    token? (c :: cs) = none := by
  simp only [isSpace, Bool.or_eq_true, beq_iff_eq] at h
  rcases h with ((rfl | rfl) | rfl) | rfl <;> rfl

theorem tokensAfter_of_token? {token : Token} {cs : List Char} (h : token? cs = some (token, rest))
    (read : List Token) : tokensAfter read cs = tokensAfter (token :: read) rest := by
  cases cs with
  | nil => cases h
  | cons c cs =>
    have hspace : ¬ isSpace c = true := by
      intro hspace
      rw [token?_of_isSpace hspace] at h
      cases h
    rw [tokensAfter, if_neg hspace]
    split
    · next found =>
      obtain ⟨rfl, rfl⟩ := Prod.mk.inj (Option.some.inj (h.symm.trans found))
      rfl
    · next hnone => cases h.symm.trans hnone

/-- The characters are read as these tokens, whatever was read before them and whatever comes behind
them that does not carry on a number. -/
def Spells (cs : List Char) (tokens : List Token) : Prop :=
  ∀ read rest, EndsNumber rest →
    tokensAfter read (cs ++ rest) = tokensAfter (tokens.reverse ++ read) rest

variable {cs cs' : List Char} {token : Token} {tokens tokens' : List Token}

theorem spells_nil : Spells [] [] := fun _ _ _ => rfl

theorem spells_token (h : ∀ rest, EndsNumber rest → token? (cs ++ rest) = some (token, rest)) :
    Spells cs [token] :=
  fun read rest hrest => tokensAfter_of_token? (h rest hrest) read

theorem Spells.append (h : Spells cs tokens) (h' : Spells cs' tokens') (hends : EndsNumber cs') :
    Spells (cs ++ cs') (tokens ++ tokens') := by
  intro read rest hrest
  rw [List.append_assoc, h read _ (hends.append hrest), h' _ rest hrest, List.reverse_append,
    List.append_assoc]

/-- A token that ends by itself may be followed by anything. -/
theorem Spells.cons (htoken : ∀ rest, token? (cs ++ rest) = some (token, rest))
    (h : Spells cs' tokens) : Spells (cs ++ cs') (token :: tokens) := by
  intro read rest hrest
  rw [List.append_assoc, tokensAfter_of_token? (htoken _), h _ rest hrest, List.reverse_cons,
    List.append_assoc]
  rfl

theorem Spells.mark {c : Char} (htoken : ∀ rest, token? (c :: rest) = some (token, rest))
    (h : Spells cs tokens) : Spells (c :: cs) (token :: tokens) := by
  rw [← List.singleton_append]
  exact .cons htoken h

theorem Spells.space (h : Spells cs tokens) {c : Char} (hc : isSpace c = true) :
    Spells (c :: cs) tokens := by
  intro read rest hrest
  rw [List.cons_append, tokensAfter, if_pos hc]
  exact h read rest hrest

/-- White space at the start of a line leaves no trace. -/
theorem Spells.line (h : Spells cs tokens) (depth : Nat) : Spells (lineStart depth ++ cs) tokens := by
  have hspaces : ∀ count, Spells (List.replicate count ' ' ++ cs) tokens := by
    intro count
    induction count with
    | zero => exact h
    | succ count ih => exact ih.space rfl
  exact (hspaces (2 * depth)).space rfl

theorem Spells.key (h : Spells cs tokens) (key : String) :
    Spells (keyStart (some key) ++ cs) (.string (some key) :: .colon :: tokens) := by
  have hcolon : Spells (':' :: ' ' :: cs) (.colon :: tokens) :=
    .mark (fun _ => rfl) (h.space rfl)
  rw [keyStart, List.append_assoc]
  exact hcolon.cons (token?_quote key)

/-! ## Building values -/

/-- The tokens lead from one state of the putting together to another. -/
def Leads (before : Progress) (tokens : List Token) (after : Progress) : Prop :=
  tokens.foldlM Progress.advance before = some after

variable {before after next : Progress} {stack : List Pending} {expect : Expect}

theorem leads_nil : Leads before [] before := rfl

theorem Leads.cons (hstep : before.advance token = some next) (h : Leads next tokens after) :
    Leads before (token :: tokens) after := by
  rw [Leads, List.foldlM_cons, hstep]
  exact h

theorem Leads.append (h : Leads before tokens next) (h' : Leads next tokens' after) :
    Leads before (tokens ++ tokens') after := by
  rw [Leads] at h
  rw [Leads, List.foldlM_append, h]
  exact h'

/-- A value may stand here. -/
def Expect.IsOpen (expect : Expect) : Prop := expect = .value ∨ expect = .itemOrEnd

/-- Wherever a value may stand, the tokens build this one. -/
def Builds (tokens : List Token) (value : Value) : Prop :=
  ∀ stack expect after, expect.IsOpen → complete value stack = some after →
    Leads ⟨stack, expect⟩ tokens after

/-- A value is read back from what is written at every depth. -/
def Value.IsReadable (value : Value) : Prop :=
  ∀ depth, ∃ tokens, Spells (value.render depth) tokens ∧ Builds tokens value

variable {value : Value} {items : List Value} {members : List (String × Value)}

/-- A value begins in the same way wherever it may stand. -/
theorem advance_of_isOpen (hopen : expect.IsOpen) (hnew : token ≠ .closeArray) :
    Progress.advance ⟨stack, expect⟩ token = beginValue stack token := by
  obtain rfl | rfl := hopen
  · rfl
  · cases token with
    | closeArray => exact absurd rfl hnew
    | _ => rfl

theorem builds_token (hnew : token ≠ .closeArray)
    (h : ∀ stack, beginValue stack token = complete value stack) : Builds [token] value := by
  intro stack expect after hopen hafter
  exact .cons (((advance_of_isOpen hopen hnew).trans (h stack)).trans hafter) leads_nil

/-- A key and a value are put in together. -/
theorem Builds.member (h : Builds tokens value) (key : String)
    (hexpect : expect = .key ∨ expect = .keyOrEnd) (taken : List (Option String × Value)) :
    Leads ⟨.object taken :: stack, expect⟩ (.string (some key) :: .colon :: tokens)
      ⟨.object ((some key, value) :: taken) :: stack, .separator⟩ := by
  have hkey : Progress.advance ⟨.object taken :: stack, expect⟩ (.string (some key)) =
      some ⟨.member taken (some key) :: stack, .colon⟩ := by
    rcases hexpect with rfl | rfl <;> rfl
  exact .cons hkey (.cons rfl (h _ _ _ (.inl rfl) rfl))

/-- What stands in an array is complete with its end. -/
theorem leads_closeArray (h : complete (.array items) stack = some after) :
    Leads ⟨.array items.reverse :: stack, .separator⟩ [.closeArray] after := by
  rw [← List.reverse_reverse items] at h
  exact .cons h leads_nil

/-- What stands in an object is complete with its end. -/
theorem leads_closeObject {members : List (Option String × Value)}
    (h : complete (.object members) stack = some after) :
    Leads ⟨.object members.reverse :: stack, .separator⟩ [.closeObject] after := by
  rw [← List.reverse_reverse members] at h
  exact .cons h leads_nil

/-! ## Arrays and objects -/

theorem endsNumber_renderItems (depth : Nat) (items : List Value) :
    EndsNumber (renderItems depth items) := by
  cases items with
  | nil => exact endsRow_nil
  | cons item items => exact endsRow_cons (by decide) _

theorem endsNumber_renderMembers (depth : Nat) (members : List (Option String × Value)) :
    EndsNumber (renderMembers depth members) := by
  cases members with
  | nil => exact endsRow_nil
  | cons member members => exact endsRow_cons (by decide) _

/-- The items behind the first are put in one after the other. -/
theorem exists_items (h : ∀ item ∈ items, item.IsReadable) (depth : Nat) :
    ∃ tokens, Spells (renderItems depth items) tokens ∧ ∀ stack taken,
      Leads ⟨.array taken :: stack, .separator⟩ tokens
        ⟨.array (items.reverse ++ taken) :: stack, .separator⟩ := by
  induction items with
  | nil => exact ⟨[], spells_nil, fun _ _ => leads_nil⟩
  | cons item items ih =>
    obtain ⟨hfirst, hothers⟩ := List.forall_mem_cons.mp h
    obtain ⟨first, hspells, hbuilds⟩ := hfirst depth
    obtain ⟨others, hspells', hleads⟩ := ih hothers
    refine ⟨.comma :: (first ++ others), ?_, fun stack taken => ?_⟩
    · have hrow := hspells.append hspells' (endsNumber_renderItems depth items)
      exact .mark (fun _ => rfl) (hrow.line depth)
    · rw [List.reverse_cons, List.append_assoc]
      exact .cons rfl ((hbuilds _ _ _ (.inl rfl) rfl).append (hleads stack (item :: taken)))

/-- The members behind the first are put in one after the other. -/
theorem exists_members (h : ∀ member ∈ members, member.2.IsReadable) (depth : Nat) :
    ∃ tokens,
      Spells (renderMembers depth (members.map fun (key, value) => (some key, value))) tokens ∧
      ∀ stack taken, Leads ⟨.object taken :: stack, .separator⟩ tokens
        ⟨.object ((members.map fun (key, value) => (some key, value)).reverse ++ taken) :: stack,
          .separator⟩ := by
  induction members with
  | nil => exact ⟨[], spells_nil, fun _ _ => leads_nil⟩
  | cons member members ih =>
    obtain ⟨key, value⟩ := member
    obtain ⟨hfirst, hothers⟩ := List.forall_mem_cons.mp h
    obtain ⟨first, hspells, hbuilds⟩ := hfirst depth
    obtain ⟨others, hspells', hleads⟩ := ih hothers
    refine ⟨.comma :: ((.string (some key) :: .colon :: first) ++ others), ?_, fun stack taken => ?_⟩
    · have hrow := hspells.append hspells' (endsNumber_renderMembers depth _)
      exact .mark (fun _ => rfl) ((hrow.key key).line depth)
    · rw [List.map_cons, List.reverse_cons, List.append_assoc]
      exact .cons rfl ((hbuilds.member key (.inl rfl) taken).append
        (hleads stack ((some key, value) :: taken)))

theorem Value.isReadable_array (h : ∀ item ∈ items, item.IsReadable) :
    (Value.array items).IsReadable := by
  intro depth
  cases items with
  | nil =>
    refine ⟨[.openArray, .closeArray], ?_, fun stack expect after hopen hafter => ?_⟩
    · exact .mark (fun _ => rfl) (.mark (fun _ => rfl) spells_nil)
    · exact .cons (advance_of_isOpen hopen nofun) (.cons hafter leads_nil)
  | cons item items =>
    obtain ⟨hfirst, hothers⟩ := List.forall_mem_cons.mp h
    obtain ⟨first, hspells, hbuilds⟩ := hfirst (depth + 1)
    obtain ⟨others, hspells', hleads⟩ := exists_items hothers (depth + 1)
    refine ⟨.openArray :: (first ++ (others ++ [.closeArray])), ?_,
      fun stack expect after hopen hafter => ?_⟩
    · have hclose : Spells (lineStart depth ++ [']']) [.closeArray] :=
        (spells_token fun _ _ => rfl).line depth
      have hrow := hspells'.append hclose (endsRow_cons (by decide) _)
      have hall := hspells.append hrow
        ((endsNumber_renderItems _ items).append (endsRow_cons (by decide) _))
      rw [render]
      exact .mark (fun _ => rfl) (hall.line (depth + 1))
    · have hlast := leads_closeArray hafter
      rw [List.reverse_cons] at hlast
      exact .cons (advance_of_isOpen hopen nofun)
        ((hbuilds _ _ _ (.inr rfl) rfl).append ((hleads stack [item]).append hlast))

theorem Value.isReadable_record (h : ∀ member ∈ members, member.2.IsReadable) :
    (Value.record members).IsReadable := by
  intro depth
  cases members with
  | nil =>
    refine ⟨[.openObject, .closeObject], ?_, fun stack expect after hopen hafter => ?_⟩
    · exact .mark (fun _ => rfl) (.mark (fun _ => rfl) spells_nil)
    · exact .cons (advance_of_isOpen hopen nofun) (.cons hafter leads_nil)
  | cons member members =>
    obtain ⟨key, value⟩ := member
    obtain ⟨hfirst, hothers⟩ := List.forall_mem_cons.mp h
    obtain ⟨first, hspells, hbuilds⟩ := hfirst (depth + 1)
    obtain ⟨others, hspells', hleads⟩ := exists_members hothers (depth + 1)
    refine ⟨.openObject :: ((.string (some key) :: .colon :: first) ++ (others ++ [.closeObject])),
      ?_, fun stack expect after hopen hafter => ?_⟩
    · have hclose : Spells (lineStart depth ++ ['}']) [.closeObject] :=
        (spells_token fun _ _ => rfl).line depth
      have hrow := hspells'.append hclose (endsRow_cons (by decide) _)
      have hall := hspells.append hrow
        ((endsNumber_renderMembers _ _).append (endsRow_cons (by decide) _))
      rw [record, List.map_cons, render]
      exact .mark (fun _ => rfl) ((hall.key key).line (depth + 1))
    · have hlast := leads_closeObject hafter
      rw [List.map_cons, List.reverse_cons] at hlast
      exact .cons (advance_of_isOpen hopen nofun)
        ((hbuilds.member key (.inr rfl) []).append ((hleads stack _).append hlast))

/-! ## Plain values -/

/-- All that a value holds has a text, and every number in it fits a word. -/
inductive Value.IsPlain : Value → Prop where
  | null : IsPlain .null
  | bool (value : Bool) : IsPlain (.bool value)
  | natural {value : Nat} (h : value < UInt64.size) : IsPlain (.natural value)
  | text (value : String) : IsPlain (.text value)
  | array {items : List Value} (h : ∀ item ∈ items, IsPlain item) : IsPlain (.array items)
  | record {members : List (String × Value)} (h : ∀ member ∈ members, IsPlain member.2) :
    IsPlain (.record members)

theorem Value.IsPlain.isReadable (h : value.IsPlain) : value.IsReadable := by
  induction h with
  | null => exact fun _ => ⟨[.null], spells_token fun _ _ => rfl, builds_token nofun fun _ => rfl⟩
  | bool value =>
    intro depth
    refine ⟨[.bool value], ?_, builds_token nofun fun _ => rfl⟩
    cases value <;> exact spells_token fun _ _ => rfl
  | natural h =>
    exact fun _ => ⟨_, spells_token fun _ hrest => token?_toDigits h hrest,
      builds_token nofun fun _ => rfl⟩
  | text value =>
    exact fun _ => ⟨_, spells_token fun rest _ => token?_quote value rest,
      builds_token nofun fun _ => rfl⟩
  | array _ ih => exact isReadable_array ih
  | record _ ih => exact isReadable_record ih

/-- **A plain value is read back** from its document. -/
theorem Value.ofText?_pretty (h : value.IsPlain) : Value.ofText? value.pretty = some value := by
  obtain ⟨tokens, hspells, hbuilds⟩ := h.isReadable 0
  have htokens : tokens? value.pretty = some tokens := by
    have hread := hspells [] [] endsRow_nil
    rw [List.append_nil, List.append_nil, tokensAfter] at hread
    rw [tokens?, pretty, String.toList_ofList, hread, Option.map_some, List.reverse_reverse]
  have hbuilt : Leads ⟨[], .value⟩ tokens ⟨[], .done value⟩ := hbuilds _ _ _ (.inl rfl) rfl
  rw [Leads] at hbuilt
  simp only [ofText?, htokens, ofTokens?, hbuilt, Option.bind_eq_bind, Option.bind_some]

end Json

end RadioGossip
